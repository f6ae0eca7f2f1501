import SketchBuild.Proofs.Database.Incremental
import SketchBuild.Proofs.Database.LeftBehind
import SketchBuild.Proofs.Disk.Overwrite
import SketchBuild.Proofs.Storage.Rewriting

namespace SketchBuild

namespace Database

open SketchBuild.Path (storageKey)

section Plan

variable {d : Disk} {task : MergeTask}

lemma isOutcome_usedIndex {index : ProjectIndex} (hb : task.boundary.IsRooted)
    (hi : IsAnchoredIndex index) (hused : task.usedIndex d = index) (fromBuild : List Entry)
    (source : Source) (warnings : List Text) (loaded : List Entry × Option Text) :
    IsOutcome d task index fromBuild loaded.1
      (resultFrom d task source fromBuild warnings loaded) := by
  subst hused
  exact isOutcome_resultFrom hb hi source warnings loaded

lemma exists_plan_of_buildEntries? {es : List Entry} (h : buildEntries? d task = some es) :
    ∃ source warnings, (planMerge d task).run.value =
      match (load d task.databasePath).run.value with
      | .ok loaded => .ok (resultFrom d task source es warnings loaded)
      | .error e => .error e := by
  rw [buildEntries?] at h
  rw [value_planMerge]
  split at h
  · rename_i path entries skipped hread
    obtain rfl := Option.some.inj h
    rw [hread]
    exact ⟨_, _, value_mergeArtifact _ _⟩
  · rename_i path entries reason hread
    obtain rfl := Option.some.inj h
    rw [hread]
    exact ⟨_, _, value_mergeArtifact _ _⟩
  · simp at h

lemma dropped_of_planMerge {plan : MergeResult} (h : (planMerge d task).run.value = .ok plan)
    (ha : plan.hasArtifact = false) : plan.droppedExisting = 0 := by
  have hmerged : ∀ source fromBuild warnings,
      (mergeArtifact d task source fromBuild warnings).run.value ≠ .ok plan := by
    intro source fromBuild warnings hr
    rw [value_mergeArtifact] at hr
    split at hr
    · obtain rfl := Except.ok.inj hr
      rw [hasArtifact_resultFrom] at ha
      simp at ha
    · simp at hr
  rw [value_planMerge] at h
  split at h
  · obtain rfl := Except.ok.inj h
    rfl
  · exact (hmerged _ _ _ h).elim
  · exact (hmerged _ _ _ h).elim
  · simp at h

end Plan

section Again

variable {d d' : Disk} {task : MergeTask} {index : ProjectIndex} {fromBuild old : List Entry}

lemma find?_freshTable_of_mem {s : Entry} (hs : s ∈ upsert d task index fromBuild old) {f : Entry}
    (hf : Table.find? s.key (freshTable d task index fromBuild) = some f) : f = s := by
  have hkey := key_of_find? isKeyed_freshTable hf
  exact List.inj_on_of_nodup_map (Table.nodup_map_firsts Entry.key _) (mem_upsert_of_find? hf) hs hkey

lemma exists_kept_of_mem_upsert (hb : task.boundary.IsRooted) (hi : IsAnchoredIndex index) {s : Entry}
    (hs : s ∈ upsert d task index fromBuild old)
    (hf : Table.find? s.key (freshTable d task index fromBuild) = none) :
    ∃ front e back target, old = front ++ e :: back ∧ target? d task index e = some target ∧
      d.isFile target = true ∧ storageKey target ∉ targetKeys d task index fromBuild ∧
      storageKey target ∉ targetKeys d task index front ∧ s = oldForm d e target := by
  have hfind := Table.find?_of_mem Entry.key (Table.nodup_map_firsts Entry.key _) hs
  rw [Table.find?_firsts, List.find?_append, ← Table.find?_of_isKeyed Entry.key isKeyed_freshTable,
    hf, Option.or_none, List.find?_filterMap, Option.bind_eq_some_iff] at hfind
  obtain ⟨e, he, hcarried⟩ := hfind
  obtain ⟨_, front, back, rfl, hfront⟩ := List.find?_eq_some_iff_append.mp he
  obtain ⟨target, ht⟩ := exists_target_of_carried? hcarried
  have hkey := key_of_carried? isKeyed_freshTable ht hcarried
  rw [hkey] at hf
  have hform := hcarried
  rw [carried?, ht, Option.bind_some, hf, Option.none_or] at hform
  split at hform
  · rename_i hfile
    refine ⟨front, e, back, target, rfl, ht, hfile, (find?_freshTable_eq_none _).mp hf, ?_,
      (Option.some.inj hform).symm⟩
    intro hmem
    obtain ⟨e', he', target', ht', hk⟩ := mem_targetKeys.mp hmem
    have hsame : target' = target := target_eq_of_storageKey hb hi ht' ht hk
    have hcarried' : carried? d task index (freshTable d task index fromBuild) e' =
        some (oldForm d e' target') := by
      rw [carried?, ht', Option.bind_some, hk, hf, Option.none_or, if_pos (hsame ▸ hfile)]
    have hnot := hfront e' he'
    rw [hcarried'] at hnot
    simp [key_oldForm, hkey, hk] at hnot
  · simp at hform

/-- What a second merge relies on: besides the database, nothing has changed; neither the artifact nor
a response file is the database; fresh entries have arguments and names, and the old entries that
were kept are consistent. -/
structure IsRepeatable (d d' : Disk) (task : MergeTask) (index : ProjectIndex)
    (fromBuild old : List Entry) : Prop where
  quiet : ∀ path, d'.location? path ≠ d'.location? task.databasePath →
    (d'.read path).toOption = (d.read path).toOption
  artifact : ∀ path ∈ artifactFiles d task.buildDir,
    d'.location? path ≠ d'.location? task.databasePath
  responses : ∀ e ∈ fromBuild, ∀ target, target? d task index e = some target →
    ∀ path, Flags.IsReferred d e.directory e.arguments path →
      d'.location? path ≠ d'.location? task.databasePath
  arguments : ∀ e ∈ fromBuild, ∀ target, target? d task index e = some target →
    (Flags.normalizeEntry d task.header e).value.arguments ≠ []
  roots : ∀ e ∈ fromBuild, ∀ target, target? d task index e = some target →
    Path.baseName target ≠ []
  names : ∀ e ∈ fromBuild ++ old, ∀ target, target? d task index e = some target →
    '\\' ∉ Path.baseName target
  consistent : ∀ front e back target, old = front ++ e :: back →
    target? d task index e = some target → d.isFile target = true →
    storageKey target ∉ targetKeys d task index fromBuild →
    storageKey target ∉ targetKeys d task index front → IsConsistent d.cwd e e.arguments

structure IsRepetition (first second : MergeResult) : Prop where
  entries : second.entries = first.entries
  dropped : second.droppedExisting = 0
  count : second.count = first.count
  discarded : second.discarded = first.discarded
  kept : second.keptExisting = first.keptExisting

variable (h : IsRepeatable d d' task index fromBuild old)
variable (hb : task.boundary.IsRooted) (hi : IsAnchoredIndex index)

include h hb hi

lemma IsRepeatable.isHeld {s : Entry} (hs : s ∈ upsert d task index fromBuild old) :
    ∃ target, IsHeld d task index s target := by
  cases hf : Table.find? s.key (freshTable d task index fromBuild) with
  | none =>
    obtain ⟨front, e, back, target, rfl, ht, hfile, hnew, hfirst, rfl⟩ :=
      exists_kept_of_mem_upsert hb hi hs hf
    have hc := h.consistent front e back target rfl ht hfile hnew hfirst
    exact ⟨target, isHeld_stored (anchored_of_target? hb hi ht) (target?_eq_some.mp ht).2
      (Disk.baseName_ne_nil hfile) (h.names e (by simp) target ht) hc.ne_nil⟩
  | some f =>
    obtain rfl := find?_freshTable_of_mem hs hf
    rw [freshTable, Table.find?_putAll] at hf
    obtain ⟨e, he, hform⟩ :=
      List.mem_filterMap.mp (List.mem_reverse.mp (List.mem_of_find?_eq_some hf))
    obtain ⟨target, ht, rfl⟩ := Option.map_eq_some_iff.mp hform
    exact ⟨target, isHeld_stored (anchored_of_target? hb hi ht) (target?_eq_some.mp ht).2
      (h.roots e he target ht) (h.names e (by simp [he]) target ht) (h.arguments e he target ht)⟩

omit hb hi in
lemma IsRepeatable.isFile {database : List Text} {bytes : List UInt8}
    (hd : d'.place task.databasePath = .ok (.taken database (.file bytes))) {path : Text}
    (hp : d.isFile path = true) : d'.isFile path = true := by
  by_cases hsame : d'.location? path = d'.location? task.databasePath
  · rw [Disk.location?_of_place hd, Disk.location?] at hsame
    split at hsame
    · rename_i p hplace
      have hloc : p.location = database := Option.some.inj hsame
      have hon := Disk.isOn_of_walk (Disk.walk_of_place hplace).2.1
      have hfile : d'.root.find? database = some (.file bytes) :=
        Disk.isOn_of_walk (Disk.walk_of_place hd).2.1
      cases p with
      | taken l node =>
        obtain rfl : l = database := hloc
        rw [Disk.Place.IsOn, hfile] at hon
        rw [Disk.isFile, Disk.node?, hplace, ← Option.some.inj hon]
      | free dir name =>
        rw [Disk.Place.IsOn, show dir ++ [name] = database from hloc, hfile] at hon
        simp at hon
    · simp at hsame
  · obtain ⟨bytes, hread⟩ := Disk.isFile_iff.mp hp
    have hquiet := h.quiet path hsame
    rw [hread] at hquiet
    cases hread' : d'.read path with
    | ok bytes' => exact Disk.isFile_iff.mpr ⟨bytes', hread'⟩
    | error e => simp [hread', Except.toOption] at hquiet

omit hb hi in
lemma IsRepeatable.freshTable_eq (hc : d'.cwd = d.cwd) :
    freshTable d' task index fromBuild = freshTable d task index fromBuild := by
  have hreads : ∀ e ∈ fromBuild, ∀ target, target? d task index e = some target →
      Flags.ReadsAlike d d' e.directory e.arguments := by
    intro e he target ht
    refine ⟨hc, fun path hp => ?_⟩
    rw [Storage.fileText?, Storage.fileText?, h.quiet path (h.responses e he target ht path hp)]
  rw [freshTable, freshTable, freshForms_alike hreads hc]

lemma IsRepeatable.carried?_eq (hc : d'.cwd = d.cwd) {database : List Text} {bytes : List UInt8}
    (hd : d'.place task.databasePath = .ok (.taken database (.file bytes))) {s : Entry}
    (hs : s ∈ upsert d task index fromBuild old) :
    carried? d' task index (freshTable d task index fromBuild) s = some s := by
  cases hf : Table.find? s.key (freshTable d task index fromBuild) with
  | some f =>
    obtain ⟨target, hheld⟩ := h.isHeld hb hi hs
    obtain rfl := find?_freshTable_of_mem hs hf
    rw [carried?, target?_congr hc, hheld.leads, Option.bind_some, ← hheld.key, hf, Option.some_or]
  | none =>
    obtain ⟨front, e, back, target, rfl, ht, hfile, hnew, hfirst, rfl⟩ :=
      exists_kept_of_mem_upsert hb hi hs hf
    have hconsistent := h.consistent front e back target rfl ht hfile hnew hfirst
    have hstored : IsStored d task index (oldForm d e target) target :=
      isStored_stored (anchored_of_target? hb hi ht) (target?_eq_some.mp ht).2
        (Disk.baseName_ne_nil hfile) (h.names e (by simp) target ht) hconsistent
    have hform : oldForm d' (oldForm d e target) target = oldForm d e target := by
      have hcwd : oldForm d' (oldForm d e target) target = oldForm d (oldForm d e target) target := by
        rw [oldForm, hc, ← oldForm]
      rw [hcwd, hstored.form]
    rw [carried?, target?_congr hc, hstored.leads, Option.bind_some,
      (find?_freshTable_eq_none _).mpr hnew, Option.none_or, if_pos (h.isFile hd hfile), hform]

lemma IsRepeatable.upsert_upsert (hc : d'.cwd = d.cwd) {database : List Text} {bytes : List UInt8}
    (hd : d'.place task.databasePath = .ok (.taken database (.file bytes))) :
    upsert d' task index fromBuild (upsert d task index fromBuild old) =
      upsert d task index fromBuild old := by
  have hcarried : (upsert d task index fromBuild old).filterMap
      (carried? d' task index (freshTable d task index fromBuild)) =
        upsert d task index fromBuild old := by
    conv_rhs => rw [← List.filterMap_some (l := upsert d task index fromBuild old)]
    exact List.filterMap_congr fun s hs => h.carried?_eq hb hi hc hd hs
  have hnodup : ((upsert d task index fromBuild old).map Entry.key).Nodup :=
    Table.nodup_map_firsts Entry.key _
  conv_lhs => rw [upsert, h.freshTable_eq hc, hcarried,
    Table.firsts_append_of_nodup Entry.key nodup_freshTable, Table.firsts_of_nodup Entry.key hnodup]
  rw [List.append_right_eq_self, List.filter_eq_nil_iff]
  intro f hf
  have hmem : f.key ∈ (upsert d task index fromBuild old).map Entry.key := by
    obtain ⟨g, hg⟩ := Option.isSome_iff_exists.mp (isSome_find?_of_mem hf)
    rw [mem_map_upsert, ← isSome_find?_freshTable, hg]
    exact Or.inl rfl
  simpa using hmem

lemma IsRepeatable.value_load
    (hr : d'.read task.databasePath =
      .ok (Storage.documentBytes (toJson (upsert d task index fromBuild old)))) :
    (load d' task.databasePath).run.value = .ok (upsert d task index fromBuild old, none) := by
  have hcanonical : (upsert d task index fromBuild old).map Entry.canonical =
      upsert d task index fromBuild old := by
    conv_rhs => rw [← List.map_id (upsert d task index fromBuild old)]
    apply List.map_congr_left
    intro s hs
    obtain ⟨target, hheld⟩ := h.isHeld hb hi hs
    exact hheld.canonical
  rw [Database.value_load hr fun s hs => (h.isHeld hb hi hs).elim fun _ hheld => hheld.complete,
    hcanonical]

lemma IsRepeatable.isRepetition (hc : d'.cwd = d.cwd) {database : List Text} {bytes : List UInt8}
    (hd : d'.place task.databasePath = .ok (.taken database (.file bytes))) {first second : MergeResult}
    (hfirst : IsOutcome d task index fromBuild old first)
    (hsecond : IsOutcome d' task index fromBuild first.entries second) :
    IsRepetition first second := by
  have htable := h.freshTable_eq hc
  have hentries : second.entries = first.entries := by
    rw [hsecond.entries, hfirst.entries, h.upsert_upsert hb hi hc hd]
  constructor
  · exact hentries
  · rw [hsecond.dropped, List.countP_eq_zero, htable, hfirst.entries]
    intro s hs
    rw [h.carried?_eq hb hi hc hd hs]
    simp
  · rw [hsecond.count, hfirst.count, htable]
  · rw [hsecond.discarded, hfirst.discarded]
    apply List.countP_congr
    intro e _
    rw [target?_congr hc]
  · rw [hsecond.kept, hfirst.kept, hentries, htable]

lemma IsRepeatable.exists_plan (hc : d'.cwd = d.cwd) (hused : task.usedIndex d' = index)
    (hbuild : buildEntries? d task = some fromBuild) {first : MergeResult}
    (hfirst : IsOutcome d task index fromBuild old first)
    (hr : d'.read task.databasePath = .ok (Storage.documentBytes (toJson first.entries))) :
    ∃ plan, (planMerge d' task).run.value = .ok plan ∧ plan.hasArtifact = true ∧
      IsRepetition first plan := by
  have hbuild' := (buildEntries?_alike hc fun path hp => h.quiet path (h.artifact path hp)).trans hbuild
  obtain ⟨database, hplace⟩ := Disk.exists_of_read hr
  obtain ⟨source, warnings, hplan⟩ := exists_plan_of_buildEntries? hbuild'
  have hload := h.value_load hb hi (by rw [hr, hfirst.entries])
  rw [hload, ← hfirst.entries] at hplan
  have hsecond := isOutcome_usedIndex hb hi hused fromBuild source warnings (first.entries, none)
  exact ⟨_, hplan, hasArtifact_resultFrom _ _ _ _, h.isRepetition hb hi hc hplace hfirst hsecond⟩

end Again

lemma again_of_absent {d d' : Disk} {task : MergeTask} {first : MergeResult}
    (hm : (merge d task).value = (d', .ok first)) (ha : first.hasArtifact = false) :
    d' = d ∧ first.droppedExisting = 0 := by
  rw [value_merge] at hm
  split at hm
  · simp at hm
  · rename_i plan hplan
    split at hm
    · rename_i hartifact
      split at hm
      · obtain ⟨_, hr⟩ := Prod.mk.inj hm
        obtain rfl := Except.ok.inj hr
        have hnone : plan.hasArtifact = false := ha
        simp [hnone] at hartifact
      · simp at hm
    · obtain ⟨rfl, hr⟩ := Prod.mk.inj hm
      obtain rfl := Except.ok.inj hr
      exact ⟨rfl, dropped_of_planMerge hplan ha⟩

section Sample

variable {fromBuild old es : List Entry}

lemma value_writeJson_sample (fromBuild old es : List Entry) :
    (Storage.writeJson (sampleDisk fromBuild old) sampleTask.databasePath (toJson es)).value =
      (sampleDisk fromBuild es, .ok ()) := by
  rw [Storage.value_writeJson, sampleDisk, sampleDisk]
  generalize Storage.documentBytes (toJson es) = bytes
  generalize Storage.documentBytes (toJson fromBuild) = built
  generalize Storage.documentBytes (toJson old) = before
  rfl

lemma agreesBut_sample (fromBuild old es : List Entry) :
    Disk.AgreesBut (sampleDisk fromBuild old) (sampleDisk fromBuild es) ["d"] := by
  rw [sampleDisk, sampleDisk]
  generalize Storage.documentBytes (toJson es) = bytes
  generalize Storage.documentBytes (toJson fromBuild) = built
  generalize Storage.documentBytes (toJson old) = before
  exact @Disk.agreesBut_setMember _ [] "d" before bytes rfl

lemma location?_sample (fromBuild old : List Entry) :
    (sampleDisk fromBuild old).location? sampleTask.databasePath = some [("d" : Text)] := by
  rw [sampleDisk]
  generalize Storage.documentBytes (toJson fromBuild) = built
  generalize Storage.documentBytes (toJson old) = before
  rfl

lemma location?_artifact_sample (fromBuild old : List Entry) :
    (sampleDisk fromBuild old).location? (Path.join sampleTask.buildDir databaseFile) =
      some [("b" : Text), databaseFile] := by
  rw [sampleDisk]
  generalize Storage.documentBytes (toJson fromBuild) = built
  generalize Storage.documentBytes (toJson old) = before
  rfl

lemma artifactFiles_sample (fromBuild old : List Entry) :
    artifactFiles (sampleDisk fromBuild old) sampleTask.buildDir =
      [Path.join sampleTask.buildDir databaseFile] := by
  rw [artifactFiles, document_of_read (read_artifact_sample fromBuild old)]

lemma isRepeatable_sample (es : List Entry) :
    IsRepeatable (sampleDisk [sampleEntry "x.c"] [sampleEntry "y.c"])
      (sampleDisk [sampleEntry "x.c"] es) sampleTask sampleIndex [sampleEntry "x.c"]
      [sampleEntry "y.c"] := by
  have hx : Flags.IsOperand "x.c" := ⟨by decide, by decide⟩
  have hy : Flags.IsOperand "y.c" := ⟨by decide, by decide⟩
  have htarget : ∀ name ∈ (["x.c", "y.c"] : List Text), ∀ target,
      target? (sampleDisk [sampleEntry "x.c"] [sampleEntry "y.c"]) sampleTask sampleIndex
        (sampleEntry name) = some target → target = "/p/" ++ name := by
    intro name hname target ht
    rw [target?_sample _ rfl name hname] at ht
    exact (Option.some.inj ht).symm
  refine ⟨?_, ?_, ?_, ?_, ?_, ?_, ?_⟩
  · intro path hp
    apply (agreesBut_sample _ _ _).read_eq
    rwa [location?_sample] at hp
  · intro path hp
    rw [artifactFiles_sample, List.mem_singleton] at hp
    rw [hp, location?_artifact_sample, location?_sample]
    decide
  · intro e he target _ path hp
    rw [List.mem_singleton.mp he] at hp
    exact (not_isReferred_sample hx path hp).elim
  · intro e he target _
    rw [List.mem_singleton.mp he, value_normalizeEntry_sample _ _ hx]
    decide
  · intro e he target ht
    rw [List.mem_singleton.mp he] at ht
    rw [htarget "x.c" (by simp) target ht]
    decide
  · intro e he target ht
    rw [List.mem_append, List.mem_singleton, List.mem_singleton] at he
    rcases he with rfl | rfl
    · rw [htarget "x.c" (by simp) target ht]
      decide
    · rw [htarget "y.c" (by simp) target ht]
      decide
  · intro front e back target hold _ _ _ _
    have he : e ∈ [sampleEntry "y.c"] := by
      rw [hold]
      simp
    rw [List.mem_singleton.mp he]
    exact isConsistent_sample _ ["gcc"] hy rfl fun a ha => by
      rw [List.mem_singleton] at ha
      rw [ha, IsSourceArgument]
      decide

end Sample

theorem merge_again (d d' : Disk) (task : MergeTask) (index : ProjectIndex) (first : MergeResult)
    (hb : task.boundary.IsRooted) (hindex : task.index = some index) (hi : IsAnchoredIndex index)
    (hm : (merge d task).value = (d', .ok first))
    (h : IsRepeatable d d' (task.located d) index ((buildEntries? d (task.located d)).getD [])
      (oldEntries d task.databasePath)) :
    ∃ d'' second, (merge d' task).value = (d'', .ok second) ∧ IsRepetition first second ∧
      d''.read task.databasePath = d'.read task.databasePath := by
  have hb' : (task.located d).boundary.IsRooted := hb
  cases ha : first.hasArtifact with
  | false =>
    obtain ⟨rfl, hdropped⟩ := again_of_absent hm ha
    exact ⟨d', first, hm, ⟨rfl, hdropped, rfl, rfl, rfl⟩, rfl⟩
  | true =>
    obtain ⟨plan, hplan, hartifact, hwrite, rfl⟩ := ok_of_merge hm ha
    obtain ⟨fromBuild, loaded, source, warnings, hbuild, hload, rfl⟩ :=
      exists_of_planMerge hplan hartifact
    have hold : oldEntries d task.databasePath = loaded.1 := by
      rw [oldEntries, show task.databasePath = (task.located d).databasePath from rfl, hload]
    rw [hbuild, Option.getD_some, hold] at h
    obtain ⟨hhere, dir, hsettled⟩ := Storage.exists_isSettled hwrite
    have hc : d'.cwd = d.cwd := by rw [Disk.cwd, Disk.cwd, hhere]
    have hread := Storage.read_of_writeJson hwrite
    have hfirst := isOutcome_usedIndex hb' hi (usedIndex_located hindex) fromBuild source warnings loaded
    have hused : (task.located d).usedIndex d' = index := by
      rw [MergeTask.usedIndex, MergeTask.located, hindex]
    obtain ⟨second, hsecond, hartifact', hrepeat⟩ :=
      h.exists_plan hb' hi hc hused hbuild hfirst hread
    have hwrite' := hsettled.value_writeJson (toJson second.entries)
    have hm' : (merge d' task).value = (d'.setMember dir (Path.baseName task.databasePath)
        (.file (Storage.documentBytes (toJson second.entries))),
          .ok { second with written := true }) := by
      rw [value_merge, located_congr hc, hsecond]
      dsimp only
      rw [if_pos hartifact', hwrite']
    refine ⟨_, _, hm', ?_, ?_⟩
    · exact ⟨hrepeat.entries, hrepeat.dropped, hrepeat.count, hrepeat.discarded, hrepeat.kept⟩
    · rw [Storage.read_of_writeJson hwrite', hread, hrepeat.entries]

theorem merge_again_sample :
    let d := sampleDisk [sampleEntry "x.c"] [sampleEntry "y.c"]
    ∃ d' first, (merge d sampleTask).value = (d', .ok first) ∧
      sampleTask.boundary.IsRooted ∧ sampleTask.index = some sampleIndex ∧
      IsAnchoredIndex sampleIndex ∧
      IsRepeatable d d' (sampleTask.located d) sampleIndex
        ((buildEntries? d (sampleTask.located d)).getD []) (oldEntries d sampleTask.databasePath) ∧
      ∃ d'' second, (merge d' sampleTask).value = (d'', .ok second) ∧ IsRepetition first second ∧
        d''.read sampleTask.databasePath = d'.read sampleTask.databasePath := by
  intro d
  have hx : ∀ e ∈ [sampleEntry "x.c"], e.IsComplete ∧ e.canonical = e := by
    intro e he
    rw [List.mem_singleton.mp he]
    exact isComplete_sampleEntry (show ("x.c" : Text) ≠ [] by decide)
  have hy : ∀ e ∈ [sampleEntry "y.c"], e.IsComplete ∧ e.canonical = e := by
    intro e he
    rw [List.mem_singleton.mp he]
    exact isComplete_sampleEntry (show ("y.c" : Text) ≠ [] by decide)
  obtain ⟨d', first, hm, ha⟩ := exists_merge_sample hx hy
  obtain ⟨plan, _, _, hwrite, _⟩ := ok_of_merge hm ha
  rw [value_writeJson_sample] at hwrite
  obtain ⟨rfl, _⟩ := Prod.mk.inj hwrite
  have hbuild : buildEntries? d (sampleTask.located d) = some [sampleEntry "x.c"] := by
    obtain ⟨path, skipped, hread⟩ := isPrimary_sample hx [sampleEntry "y.c"]
    rw [buildEntries?, hread]
  have hold : oldEntries d sampleTask.databasePath = [sampleEntry "y.c"] := by
    rw [oldEntries, load_sample _ hy]
  have hrepeatable : IsRepeatable d (sampleDisk [sampleEntry "x.c"] plan.entries)
      (sampleTask.located d) sampleIndex ((buildEntries? d (sampleTask.located d)).getD [])
      (oldEntries d sampleTask.databasePath) := by
    rw [hbuild, hold]
    exact isRepeatable_sample plan.entries
  exact ⟨_, first, hm, isRooted_sampleTask, rfl, isAnchoredIndex_sample, hrepeatable,
    merge_again d _ sampleTask sampleIndex first isRooted_sampleTask rfl isAnchoredIndex_sample hm
      hrepeatable⟩

end Database

end SketchBuild
