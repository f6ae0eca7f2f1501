import SketchBuild.Proofs.Database.Files
import SketchBuild.Proofs.Flags.Agreement

/-! Merging one build after another gives the database that merging both at once gives: what the
first merge stored is read back and stored in the same form by the second one. -/

namespace SketchBuild.Database

def result? : Except MergeError MergeResult → Option MergeResult
  | .ok r => some r
  | .error (.unwritable _ r) => some r
  | .error (.oversized _) => none

/-- Two builds with the entries `a` and `b`, which are on the disks `start` and `next`, and both
together on the disk `whole`. -/
structure IsSplit (task : MergeTask) (index : ProjectIndex) (start next whole : Disk)
    (old a b : List Entry) : Prop where
  cwd_next : next.cwd = start.cwd
  cwd_whole : whole.cwd = start.cwd
  consistent_old : ∀ e ∈ old, IsConsistent start.cwd e e.arguments
  consistent_a : ∀ e ∈ a,
    IsConsistent start.cwd e (Flags.normalizeEntry start task.header e).value.arguments
  responses_a : ∀ e ∈ a, Flags.ReadsAlike start whole e.directory e.arguments
  responses_b : ∀ e ∈ b, Flags.ReadsAlike next whole e.directory e.arguments
  files : ∀ e ∈ old ++ (a ++ b), ∀ target, target? start task index e = some target →
    start.isFile target = true ∧ next.isFile target = true ∧ whole.isFile target = true
  names : ∀ e ∈ old ++ (a ++ b), ∀ target, target? start task index e = some target →
    '\\' ∉ Path.baseName target

variable {d d' : Disk} {task : MergeTask} {index : ProjectIndex}

lemma exists_result? {plan : MergeResult}
    (hp : (planMerge d (task.located d)).run.value = .ok plan) (ha : plan.hasArtifact = true) :
    ∃ r, result? (merge d task).value.2 = some r ∧ r.entries = plan.entries := by
  rw [value_merge, hp]
  dsimp only
  rw [if_pos ha]
  split
  · exact ⟨_, rfl, rfl⟩
  · exact ⟨_, rfl, rfl⟩

lemma usedIndex_located (h : task.index = some index) :
    (task.located d).usedIndex d = index := by
  rw [MergeTask.usedIndex, MergeTask.located, h]

lemma entries_resultFrom (hb : task.boundary.IsRooted) (hindex : task.index = some index)
    (hi : IsAnchoredIndex index) (fromBuild : List Entry) (warnings : List Text)
    (loaded : List Entry × Option Text) :
    (resultFrom d (task.located d) .primary fromBuild warnings loaded).entries =
      upsert d (task.located d) index fromBuild loaded.1 := by
  have hused : (task.located d).usedIndex d = index := usedIndex_located hindex
  have hb' : (task.located d).boundary.IsRooted := hb
  have hi' : IsAnchoredIndex ((task.located d).usedIndex d) := by rwa [hused]
  have hout : IsOutcome d (task.located d) ((task.located d).usedIndex d) fromBuild loaded.1
      (resultFrom d (task.located d) .primary fromBuild warnings loaded) :=
    isOutcome_resultFrom hb' hi' _ warnings loaded
  rw [hout.entries, hused]

lemma exists_result?_of_isPrimary {es : List Entry} (hb : task.boundary.IsRooted)
    (hindex : task.index = some index) (hi : IsAnchoredIndex index) (h : IsPrimary d task es)
    {loaded : List Entry × Option Text}
    (hl : (load d task.databasePath).run.value = .ok loaded) :
    ∃ r, result? (merge d task).value.2 = some r ∧
      r.entries = upsert d (task.located d) index es loaded.1 := by
  obtain ⟨warnings, hplan⟩ := exists_of_isPrimary h
  rw [hl] at hplan
  obtain ⟨r, hr, hentries⟩ := exists_result? hplan (hasArtifact_resultFrom _ _ _ _)
  refine ⟨r, hr, ?_⟩
  rw [hentries, entries_resultFrom hb hindex hi]

lemma read_of_merge {es : List Entry} {r : MergeResult} (hb : task.boundary.IsRooted)
    (hindex : task.index = some index) (hi : IsAnchoredIndex index) (h : IsPrimary d task es)
    {loaded : List Entry × Option Text}
    (hl : (load d task.databasePath).run.value = .ok loaded)
    (hm : (merge d task).value = (d', .ok r)) :
    d'.read task.databasePath = .ok (Storage.documentBytes (toJson
      (upsert d (task.located d) index es loaded.1))) := by
  obtain ⟨warnings, hplan⟩ := exists_of_isPrimary h
  rw [hl] at hplan
  rw [value_merge, hplan] at hm
  dsimp only at hm
  rw [if_pos (hasArtifact_resultFrom _ _ _ _), entries_resultFrom hb hindex hi] at hm
  split at hm
  · rename_i hwrite
    obtain ⟨rfl, _⟩ := Prod.mk.inj hm
    exact Storage.read_of_writeJson hwrite
  · simp at hm

section Split

variable {start next whole : Disk} {old a b : List Entry}

lemma IsSplit.isStored (h : IsSplit task index start next whole old a b)
    (hb : task.boundary.IsRooted) (hi : IsAnchoredIndex index) {s : Entry}
    (hs : s ∈ upsert start task index a old) :
    ∃ target, IsStored start task index s target ∧ next.isFile target = true := by
  have hstored : ∀ e ∈ old ++ (a ++ b), ∀ target arguments,
      target? start task index e = some target → IsConsistent start.cwd e arguments →
      IsStored start task index (stored start.cwd e arguments (e.path start.cwd) target) target := by
    intro e he target arguments ht hc
    have hname := Disk.baseName_ne_nil (h.files e he target ht).1
    exact isStored_stored (anchored_of_target? hb hi ht) (target?_eq_some.mp ht).2 hname
      (h.names e he target ht) hc
  rcases mem_upsert_cases hs with ⟨e, he, target, ht, rfl⟩ | ⟨e, he, target, ht, rfl⟩
  · have hmem : e ∈ old ++ (a ++ b) := by simp [he]
    refine ⟨target, ?_, (h.files e hmem target ht).2.1⟩
    exact hstored e hmem target _ ht (h.consistent_a e he)
  · have hmem : e ∈ old ++ (a ++ b) := by simp [he]
    refine ⟨target, ?_, (h.files e hmem target ht).2.1⟩
    exact hstored e hmem target _ ht (h.consistent_old e he)

lemma arguments_normalizeEntry (d : Disk) (header : Text) (e : Entry) :
    (Flags.normalizeEntry d header e).value.arguments =
      (Flags.normalize d e.directory header e.arguments).value := by
  rw [Flags.normalizeEntry, Noted.value_map, Entry.withArguments]

lemma freshForms_alike {es : List Entry}
    (h : ∀ e ∈ es, ∀ target, target? d task index e = some target →
      Flags.ReadsAlike d d' e.directory e.arguments) (hc : d'.cwd = d.cwd) :
    freshForms d' task index es = freshForms d task index es := by
  apply freshForms_congr hc
  intro e he target ht
  rw [arguments_normalizeEntry, arguments_normalizeEntry]
  exact Flags.value_normalize_alike task.header (h e he target ht)

lemma IsSplit.upsert_upsert (h : IsSplit task index start next whole old a b)
    (hb : task.boundary.IsRooted) (hi : IsAnchoredIndex index) :
    upsert next task index b (upsert start task index a old) =
      upsert whole task index (a ++ b) old := by
  have hstored : ∀ s ∈ upsert start task index a old, ∃ target, IsStored start task index s target :=
    fun s hs => by
      obtain ⟨target, hstored, _⟩ := h.isStored hb hi hs
      exact ⟨target, hstored⟩
  obtain ⟨hforms, hkeys⟩ := oldForms_self hstored
  have hstart : HasFiles start task index old := fun e he target ht =>
    (h.files e (by simp [he]) target ht).1
  have hnext : HasFiles next task index (upsert start task index a old) := by
    intro s hs target ht
    obtain ⟨target', hstored, hfile⟩ := h.isStored hb hi hs
    rw [target?_congr h.cwd_next, hstored.leads] at ht
    obtain rfl := Option.some.inj ht
    exact hfile
  have hwhole : HasFiles whole task index old := by
    intro e he target ht
    rw [target?_congr h.cwd_whole] at ht
    exact (h.files e (by simp [he]) target ht).2.2
  have hfreshA : freshForms whole task index a = freshForms start task index a :=
    freshForms_alike (fun e he _ _ => h.responses_a e he) h.cwd_whole
  have hfreshB : freshForms whole task index b = freshForms next task index b :=
    freshForms_alike (fun e he _ _ => h.responses_b e he) (h.cwd_whole.trans h.cwd_next.symm)
  apply Table.eq_of_map_of_find? Entry.key
  · rw [map_key_upsert_of_hasFiles hnext, map_key_upsert_of_hasFiles hwhole,
      targetKeys_congr h.cwd_next, targetKeys_congr h.cwd_next, hkeys,
      map_key_upsert_of_hasFiles hstart, targetKeys_congr h.cwd_whole,
      targetKeys_congr h.cwd_whole, targetKeys_append, Table.eraseDups_eraseDups_append,
      List.append_assoc]
  · exact Table.nodup_map_firsts Entry.key _
  · intro k
    have hA : freshTable whole task index a = freshTable start task index a := by
      rw [freshTable, freshTable, hfreshA]
    have hB : freshTable whole task index b = freshTable next task index b := by
      rw [freshTable, freshTable, hfreshB]
    rw [find?_upsert hnext, find?_upsert hwhole, oldForms_congr h.cwd_next, hforms,
      find?_upsert hstart, find?_freshTable_append, hA, hB, oldForms_congr h.cwd_whole,
      Option.or_assoc]

end Split

section Sample

variable {fromBuild old fromBuild' old' : List Entry}

lemma exists_upsert_sample {fromBuild old : List Entry}
    (hb : ∀ e ∈ fromBuild, e.IsComplete ∧ e.canonical = e)
    (ho : ∀ e ∈ old, e.IsComplete ∧ e.canonical = e) :
    ∃ d' r, (merge (sampleDisk fromBuild old) sampleTask).value = (d', .ok r) ∧
      r.hasArtifact = true ∧ r.written = true ∧
      r.entries = upsert (sampleDisk fromBuild old) sampleTask sampleIndex fromBuild old ∧
      d'.read sampleTask.databasePath = .ok (Storage.documentBytes (toJson r.entries)) := by
  obtain ⟨d', r, hm, ha⟩ := exists_merge_sample hb ho
  obtain ⟨plan, hplan, _, hwrite, rfl⟩ := ok_of_merge hm ha
  obtain ⟨warnings, hplan'⟩ := exists_of_isPrimary (isPrimary_sample hb old)
  rw [load_sample _ ho, hplan] at hplan'
  refine ⟨d', _, hm, ha, rfl, ?_, Storage.read_of_writeJson hwrite⟩
  dsimp only
  rw [Except.ok.inj hplan', entries_resultFrom isRooted_sampleTask rfl isAnchoredIndex_sample]
  rfl

lemma cwd_sample (fromBuild old : List Entry) : (sampleDisk fromBuild old).cwd = ['/'] := rfl

lemma target?_sample (d : Disk) (hd : d.cwd = "/") :
    ∀ name ∈ (["x.c", "y.c"] : List Text),
      target? d sampleTask sampleIndex (sampleEntry name) = some ("/p/" ++ name) := by
  have hempty : ∀ name ∈ (["x.c", "y.c"] : List Text),
      target? { root := .dir [], here := [] } sampleTask sampleIndex (sampleEntry name) =
        some ("/p/" ++ name) := by decide
  intro name hname
  have hcwd : d.cwd = Disk.cwd { root := .dir [], here := [] } := hd
  rw [target?_congr hcwd, hempty name hname]

lemma isFile_sample : ∀ name ∈ (["x.c", "y.c"] : List Text),
    (sampleDisk fromBuild old).isFile ("/p/" ++ name) = true := by
  simp only [List.mem_cons, List.not_mem_nil, or_false, forall_eq_or_imp, forall_eq]
  exact ⟨rfl, rfl⟩

lemma not_isReferred_sample {d : Disk} {name : Text} (h : Flags.IsOperand name) (path : Text) :
    ¬Flags.IsReferred d (sampleEntry name).directory (sampleEntry name).arguments path := by
  apply Flags.not_isReferred
  simp only [sampleEntry, List.mem_cons, List.not_mem_nil, or_false, forall_eq_or_imp, forall_eq]
  exact ⟨rfl, Flags.reference?_eq_none h.2⟩

lemma readsAlike_sample {name : Text} (h : Flags.IsOperand name) :
    Flags.ReadsAlike (sampleDisk fromBuild old) (sampleDisk fromBuild' old')
      (sampleEntry name).directory (sampleEntry name).arguments :=
  ⟨by rw [cwd_sample, cwd_sample], fun path hp => (not_isReferred_sample h path hp).elim⟩

lemma value_normalizeEntry_sample (d : Disk) (header : Text) {name : Text}
    (h : Flags.IsOperand name) :
    (Flags.normalizeEntry d header (sampleEntry name)).value.arguments =
      Flags.forceHeader header ("gcc" :: [name]) := by
  have hg : Flags.IsOperand "gcc" := ⟨by decide, by decide⟩
  have hs : ∀ a ∈ (sampleEntry name).arguments, Flags.IsSettled d "/p" a := by
    simp only [sampleEntry, List.mem_cons, List.not_mem_nil, or_false, forall_eq_or_imp, forall_eq]
    exact ⟨Flags.isSettled_of_head hg.2, Flags.isSettled_of_head h.2⟩
  have hp : Flags.HasNoPrefix (sampleEntry name).arguments :=
    ⟨Flags.value?_prefixFlag_of_head hg.1, Flags.value?_prefixFlag_of_head h.1, trivial⟩
  have hdir : (sampleEntry name).directory = "/p" := rfl
  rw [arguments_normalizeEntry, Flags.value_normalize, hdir, Flags.value_expand_settled hs,
    Flags.value_resolvePrefixes_self hp]
  dsimp only [sampleEntry]
  rw [Flags.resolveIncludes_cons (Flags.Piece.isInert_of_head hg.1),
    Flags.resolveIncludes_cons (Flags.Piece.isInert_of_head h.1)]
  rfl

lemma isConsistent_sample (cwd : Text) (before : List Text) {name : Text}
    (h : Flags.IsOperand name) (hs : Path.isSource name = true)
    (hb : ∀ a ∈ before, ¬IsSourceArgument a) :
    IsConsistent cwd (sampleEntry name) (before ++ [name]) := by
  refine ⟨before, name, [], rfl, ⟨h.1, hs⟩, rfl, ?_⟩
  rwa [List.append_nil]

lemma isSplit_sample (entries : List Entry) :
    IsSplit sampleTask sampleIndex (sampleDisk [sampleEntry "x.c"] [sampleEntry "y.c"])
      (sampleDisk [sampleEntry "y.c"] entries)
      (sampleDisk [sampleEntry "x.c", sampleEntry "y.c"] [sampleEntry "y.c"])
      [sampleEntry "y.c"] [sampleEntry "x.c"] [sampleEntry "y.c"] := by
  have hx : Flags.IsOperand "x.c" := ⟨by decide, by decide⟩
  have hy : Flags.IsOperand "y.c" := ⟨by decide, by decide⟩
  have hflags : ∀ a ∈ (["gcc", Flags.forcedFlag, Flags.defaultHeader] : List Text),
      ¬IsSourceArgument a := by
    simp only [IsSourceArgument]
    decide
  have hnames : ∀ e ∈ [sampleEntry "y.c"] ++ ([sampleEntry "x.c"] ++ [sampleEntry "y.c"]),
      ∃ name ∈ (["x.c", "y.c"] : List Text), e = sampleEntry name := by
    simp
  refine ⟨by rw [cwd_sample, cwd_sample], by rw [cwd_sample, cwd_sample], ?_, ?_, ?_, ?_, ?_, ?_⟩
  · intro e he
    rw [List.mem_singleton.mp he]
    exact isConsistent_sample _ ["gcc"] hy rfl fun a ha => hflags a (by simp_all)
  · intro e he
    have hforced : Flags.forceHeader Flags.defaultHeader ("gcc" :: ["x.c"]) =
        ([("gcc" : Text), Flags.forcedFlag, Flags.defaultHeader] ++ [("x.c" : Text)]) := by decide
    rw [List.mem_singleton.mp he, value_normalizeEntry_sample _ _ hx]
    exact hforced ▸ isConsistent_sample _ _ hx rfl hflags
  · intro e he
    rw [List.mem_singleton.mp he]
    exact readsAlike_sample hx
  · intro e he
    rw [List.mem_singleton.mp he]
    exact readsAlike_sample hy
  · intro e he target ht
    obtain ⟨name, hname, rfl⟩ := hnames e he
    rw [target?_sample _ rfl name hname] at ht
    obtain rfl := Option.some.inj ht
    exact ⟨isFile_sample name hname, isFile_sample name hname, isFile_sample name hname⟩
  · intro e he target ht
    obtain ⟨name, hname, rfl⟩ := hnames e he
    rw [target?_sample _ rfl name hname] at ht
    obtain rfl := Option.some.inj ht
    revert name
    decide

end Sample

/-- Merging a second build into the result of merging a first one gives the same entries as merging
both at once. -/
theorem merge_after_merge (task : MergeTask) (index : ProjectIndex)
    (start after next whole : Disk) (first : MergeResult) (a b : List Entry)
    (hb : task.boundary.IsRooted) (hindex : task.index = some index) (hi : IsAnchoredIndex index)
    (hfirst : (merge start task).value = (after, .ok first))
    (ha : IsPrimary start task a) (hnext : IsPrimary next task b)
    (hwhole : IsPrimary whole task (a ++ b))
    (hkept : next.read task.databasePath = after.read task.databasePath)
    (hsame : whole.read task.databasePath = start.read task.databasePath)
    (hsplit : IsSplit (task.located start) index start next whole
      (oldEntries start task.databasePath) a b) :
    ∃ second both, result? (merge next task).value.2 = some second ∧
      result? (merge whole task).value.2 = some both ∧ second.entries = both.entries := by
  have hb' : (task.located start).boundary.IsRooted := hb
  cases hload : (load start task.databasePath).run.value with
  | error e =>
    obtain ⟨warnings, hplan⟩ := exists_of_isPrimary ha
    rw [hload] at hplan
    rw [value_merge, hplan] at hfirst
    simp at hfirst
  | ok loaded =>
    have hold : oldEntries start task.databasePath = loaded.1 := by rw [oldEntries, hload]
    rw [hold] at hsplit
    have hstored : ∀ s ∈ upsert start (task.located start) index a loaded.1,
        ∃ target, IsStored start (task.located start) index s target := by
      intro s hs
      obtain ⟨target, hs, _⟩ := hsplit.isStored hb' hi hs
      exact ⟨target, hs⟩
    have hread := hkept.trans (read_of_merge hb hindex hi ha hload hfirst)
    have hcanonical : (upsert start (task.located start) index a loaded.1).map Entry.canonical =
        upsert start (task.located start) index a loaded.1 := by
      conv_rhs => rw [← List.map_id (upsert start (task.located start) index a loaded.1)]
      apply List.map_congr_left
      intro s hs
      obtain ⟨target, hs⟩ := hstored s hs
      exact hs.canonical
    have hloadNext : (load next task.databasePath).run.value =
        .ok (upsert start (task.located start) index a loaded.1, none) := by
      rw [value_load hread fun s hs => (hstored s hs).elim fun _ h => h.complete, hcanonical]
    obtain ⟨failure, hloadWhole⟩ := load_congr hsame hload
    obtain ⟨second, hsecond, hentries₂⟩ :=
      exists_result?_of_isPrimary hb hindex hi hnext hloadNext
    obtain ⟨both, hboth, hentries₃⟩ := exists_result?_of_isPrimary hb hindex hi hwhole hloadWhole
    refine ⟨second, both, hsecond, hboth, ?_⟩
    rw [hentries₂, hentries₃, located_congr hsplit.cwd_next, located_congr hsplit.cwd_whole]
    exact hsplit.upsert_upsert hb' hi

theorem merge_after_merge_sample :
    let a := [sampleEntry "x.c"]
    let b := [sampleEntry "y.c"]
    let old := [sampleEntry "y.c"]
    ∃ after first next, (merge (sampleDisk a old) sampleTask).value = (after, .ok first) ∧
      next.read sampleTask.databasePath = after.read sampleTask.databasePath ∧
      IsSplit (sampleTask.located (sampleDisk a old)) sampleIndex (sampleDisk a old) next
        (sampleDisk (a ++ b) old) (oldEntries (sampleDisk a old) sampleTask.databasePath) a b ∧
      ∃ second both, result? (merge next sampleTask).value.2 = some second ∧
        result? (merge (sampleDisk (a ++ b) old) sampleTask).value.2 = some both ∧
        second.entries = both.entries := by
  intro a b old
  have hx := isComplete_sampleEntry (show ("x.c" : Text) ≠ [] by decide)
  have hy := isComplete_sampleEntry (show ("y.c" : Text) ≠ [] by decide)
  have ha : ∀ e ∈ a, e.IsComplete ∧ e.canonical = e := by
    intro e he
    rwa [List.mem_singleton.mp he]
  have hold : ∀ e ∈ old, e.IsComplete ∧ e.canonical = e := by
    intro e he
    rwa [List.mem_singleton.mp he]
  have hboth : ∀ e ∈ a ++ b, e.IsComplete ∧ e.canonical = e := by
    intro e he
    rcases List.mem_append.mp he with he | he
    · exact ha e he
    · exact hold e he
  obtain ⟨after, first, hm, _⟩ := exists_merge_sample ha hold
  have hread := read_of_merge isRooted_sampleTask rfl isAnchoredIndex_sample
    (isPrimary_sample ha old) (load_sample a hold) hm
  generalize upsert (sampleDisk a old) (sampleTask.located (sampleDisk a old)) sampleIndex a old =
    entries at hread
  have hkept : (sampleDisk b entries).read sampleTask.databasePath =
      after.read sampleTask.databasePath := by
    rw [hread, read_sample]
  have hsplit : IsSplit (sampleTask.located (sampleDisk a old)) sampleIndex (sampleDisk a old)
      (sampleDisk b entries) (sampleDisk (a ++ b) old)
      (oldEntries (sampleDisk a old) sampleTask.databasePath) a b := by
    rw [oldEntries, load_sample a hold]
    exact isSplit_sample entries
  refine ⟨after, first, sampleDisk b entries, hm, hkept, hsplit, ?_⟩
  exact merge_after_merge sampleTask sampleIndex (sampleDisk a old) after (sampleDisk b entries)
    (sampleDisk (a ++ b) old) first a b isRooted_sampleTask rfl isAnchoredIndex_sample hm
    (isPrimary_sample ha old) (isPrimary_sample hold entries) (isPrimary_sample hboth old) hkept
    (by rw [read_sample, read_sample]) hsplit

end SketchBuild.Database
