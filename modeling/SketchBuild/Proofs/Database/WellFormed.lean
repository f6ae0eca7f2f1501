import SketchBuild.Proofs.Database.Incremental
import SketchBuild.Proofs.Database.Origin

namespace SketchBuild.Database

section Complete

variable {d : Disk} {task : MergeTask} {index : ProjectIndex} {e s : Entry} {target : Text}

lemma replaceSource_eq_nil (cwd directory path target : Text) (arguments : List Text) :
    replaceSource cwd directory path target arguments = [] ↔ arguments = [] := by
  constructor
  · contrapose
    exact replaceSource_ne_nil cwd directory path target
  · rintro rfl
    rfl

lemma isComplete_stored (hb : task.boundary.IsRooted) (ht : target? d task index e = some target)
    (arguments : List Text) :
    (stored d.cwd e arguments (e.path d.cwd) target).IsComplete ↔
      Path.baseName target ≠ [] ∧ arguments ≠ [] := by
  have hrooted := Path.rooted_of_contains hb (target?_eq_some.mp ht).2.2
  have hne := replaceSource_eq_nil d.cwd e.directory (e.path d.cwd) target arguments
  constructor
  · exact fun h => ⟨h.file, hne.not.mp h.arguments⟩
  · exact fun h => ⟨Path.parent_ne_nil hrooted, h.1, hne.not.mpr h.2⟩

lemma isComplete_oldForm (hb : task.boundary.IsRooted) (ht : target? d task index e = some target)
    (hfile : d.isFile target = true) (hc : e.IsComplete) : (oldForm d e target).IsComplete := by
  apply (isComplete_stored hb ht e.arguments).mpr
  exact ⟨Disk.baseName_ne_nil hfile, hc.arguments⟩

lemma canonical_of_isMerged {fromBuild old : List Entry}
    (h : IsMerged d task index (freshTable d task index fromBuild) old s) : s.canonical = s := by
  cases h with
  | fresh hfind =>
    obtain ⟨e, target, _, _, rfl⟩ := exists_isLast hfind
    exact canonical_stored _ _ _ _ _
  | kept e target _ _ _ _ hs =>
    rw [hs]
    exact canonical_stored _ _ _ _ _

/-- Whether every entry of a build has a name and arguments left when it is stored. -/
def LeavesComplete (d : Disk) (task : MergeTask) (index : ProjectIndex) (fromBuild : List Entry) :
    Prop :=
  ∀ e target, IsLast d task index fromBuild e target →
    Path.baseName target ≠ [] ∧ (Flags.normalizeEntry d task.header e).value.arguments ≠ []

lemma forall_isComplete_iff (hb : task.boundary.IsRooted) (source : Source)
    (fromBuild : List Entry) (warnings : List Text) (loaded : List Entry × Option Text)
    (hc : ∀ e ∈ loaded.1, e.IsComplete) :
    (∀ s ∈ (resultFrom d task source fromBuild warnings loaded).entries, s.IsComplete) ↔
      LeavesComplete d task (task.usedIndex d) fromBuild := by
  constructor
  · intro h e target hlast
    have hmem := mem_resultFrom source fromBuild warnings loaded hlast.find?
    obtain ⟨_, _, _, ht, _⟩ := hlast
    exact (isComplete_stored hb ht _).mp (h _ hmem)
  · intro h s hs
    cases isMerged_resultFrom source fromBuild warnings loaded s hs with
    | fresh hfind =>
      obtain ⟨e, target, hlast, _, rfl⟩ := exists_isLast hfind
      have hleft := h e target hlast
      obtain ⟨_, _, _, ht, _⟩ := hlast
      exact (isComplete_stored hb ht _).mpr hleft
    | kept e target he ht hfile _ hs =>
      rw [hs]
      exact isComplete_oldForm hb ht hfile (hc e he)

end Complete

section Sample

def prefixEntry : Entry := { sampleEntry "x.c" with arguments := ["-iprefix", "/opt"] }

lemma isComplete_prefixEntry : prefixEntry.IsComplete ∧ prefixEntry.canonical = prefixEntry :=
  ⟨by decide, rfl⟩

lemma value_normalizeEntry_prefix (d : Disk) (header : Text) :
    (Flags.normalizeEntry d header prefixEntry).value.arguments = [] := by
  have hs : ∀ a ∈ prefixEntry.arguments, Flags.IsSettled d prefixEntry.directory a := by
    simp only [prefixEntry, List.mem_cons, List.not_mem_nil, or_false, forall_eq_or_imp, forall_eq]
    exact ⟨Flags.isSettled_of_head (by decide), Flags.isSettled_of_head (by decide)⟩
  have hscan : ∀ splice, (Flags.scanPrefixes d prefixEntry.directory splice none
      prefixEntry.arguments).value = some [] := fun _ => rfl
  have hflat : (Flags.resolvePrefixes d prefixEntry.directory prefixEntry.arguments).value = [] := by
    rw [Flags.resolvePrefixes, Noted.value_map]
    cases Flags.spliceBound d prefixEntry.arguments with
    | zero => rw [Flags.resolveWithin, hscan, Option.getD_some]
    | succ n => rw [Flags.resolveWithin, hscan, Option.getD_some]
  rw [arguments_normalizeEntry, Flags.value_normalize, Flags.value_expand_settled hs, hflat]
  rfl

lemma upsert_singleton {d : Disk} {task : MergeTask} {index : ProjectIndex} {e : Entry}
    {target : Text} (ht : target? d task index e = some target) :
    upsert d task index [e] [] = [freshForm d task e target] := by
  have hforms : freshForms d task index [e] = [freshForm d task e target] := by
    simp [freshForms, ht]
  rw [upsert, freshTable, hforms]
  rfl

end Sample

/-- Of the entries of a merge, the complete ones are read back as they are. All of them are when
every entry of the build has a name and arguments left. -/
theorem load_of_merge (d d' : Disk) (task : MergeTask) (r : MergeResult)
    (hb : task.boundary.IsRooted) (hm : (merge d task).value = (d', .ok r))
    (ha : r.hasArtifact = true) :
    (load d' task.databasePath).run.value = .ok (r.entries.filter (·.IsComplete), none) ∧
      (∀ e ∈ r.entries, Entry.ofJson e.toJson = .ok e ↔ e.IsComplete) ∧
      ∃ fromBuild, buildEntries? d (task.located d) = some fromBuild ∧
        ((∀ e ∈ r.entries, e.IsComplete) ↔
          LeavesComplete d (task.located d) ((task.located d).usedIndex d) fromBuild) := by
  obtain ⟨plan, hplan, hartifact, hwrite, rfl⟩ := ok_of_merge hm ha
  obtain ⟨fromBuild, loaded, source, warnings, hread, hload, rfl⟩ :=
    exists_of_planMerge hplan hartifact
  have hcanonical : ∀ e ∈ (resultFrom d (task.located d) source fromBuild warnings loaded).entries,
      e.canonical = e :=
    fun e he => canonical_of_isMerged (isMerged_resultFrom source fromBuild warnings loaded e he)
  refine ⟨?_, ?_, fromBuild, hread, ?_⟩
  · rw [value_load_filter (Storage.read_of_writeJson hwrite)]
    congr 2
    conv_rhs => rw [← List.map_id (List.filter _ _)]
    apply List.map_congr_left
    exact fun e he => hcanonical e (List.mem_filter.mp he).1
  · intro e he
    constructor
    · exact fun h => (Entry.ofJson_eq_ok h).1
    · intro hc
      rw [Entry.ofJson_toJson hc, hcanonical e he]
  · have hb' : (task.located d).boundary.IsRooted := hb
    exact forall_isComplete_iff hb' source fromBuild warnings loaded (isComplete_of_load hload)

theorem load_of_merge_sample :
    let d := sampleDisk [sampleEntry "x.c"] [sampleEntry "y.c"]
    sampleTask.boundary.IsRooted ∧ ∃ d' r, (merge d sampleTask).value = (d', .ok r) ∧
      r.hasArtifact = true ∧
      (load d' sampleTask.databasePath).run.value = .ok (r.entries.filter (·.IsComplete), none) ∧
      (∀ e ∈ r.entries, Entry.ofJson e.toJson = .ok e ↔ e.IsComplete) ∧
      ∃ fromBuild, buildEntries? d (sampleTask.located d) = some fromBuild ∧
        ((∀ e ∈ r.entries, e.IsComplete) ↔ LeavesComplete d (sampleTask.located d)
          ((sampleTask.located d).usedIndex d) fromBuild) := by
  intro d
  have hx : ∀ e ∈ [sampleEntry "x.c"], e.IsComplete ∧ e.canonical = e := by
    simpa using isComplete_sampleEntry (show ("x.c" : Text) ≠ [] by decide)
  have hy : ∀ e ∈ [sampleEntry "y.c"], e.IsComplete ∧ e.canonical = e := by
    simpa using isComplete_sampleEntry (show ("y.c" : Text) ≠ [] by decide)
  obtain ⟨d', r, hm, ha, _⟩ := exists_upsert_sample hx hy
  exact ⟨isRooted_sampleTask, d', r, hm, ha,
    load_of_merge d d' sampleTask r isRooted_sampleTask hm ha⟩

theorem load_of_merge_prefix :
    let d := sampleDisk [prefixEntry] []
    sampleTask.boundary.IsRooted ∧ prefixEntry.IsComplete ∧
      ∃ d' r, (merge d sampleTask).value = (d', .ok r) ∧ r.hasArtifact = true ∧ r.written = true ∧
        r.entries = [{ directory := "/p", file := "x.c", arguments := [] }] ∧
        (∀ e ∈ r.entries, Entry.ofJson e.toJson = .error .argumentsEmpty) ∧
        (load d' sampleTask.databasePath).run.value = .ok ([], none) := by
  intro d
  have hx : ∀ e ∈ [prefixEntry], e.IsComplete ∧ e.canonical = e := by
    simpa using isComplete_prefixEntry
  have hnone : ∀ e ∈ ([] : List Entry), e.IsComplete ∧ e.canonical = e := by simp
  obtain ⟨d', r, hm, ha, hw, hentries, hread⟩ := exists_upsert_sample hx hnone
  have ht : target? d sampleTask sampleIndex prefixEntry = some "/p/x.c" :=
    target?_sample d rfl "x.c" (by simp)
  have hform : freshForm d sampleTask prefixEntry "/p/x.c" =
      { directory := "/p", file := "x.c", arguments := [] } := by
    rw [freshForm, value_normalizeEntry_prefix]
    rfl
  rw [upsert_singleton ht, hform] at hentries
  refine ⟨isRooted_sampleTask, isComplete_prefixEntry.1, d', r, hm, ha, hw, hentries, ?_, ?_⟩
  · rw [hentries]
    decide
  · rw [value_load_filter hread, hentries]
    rfl

end SketchBuild.Database
