import SketchBuild.Proofs.Database.Incremental
import SketchBuild.Proofs.Database.Origin
import SketchBuild.Proofs.Path.Split

namespace SketchBuild

namespace Database

variable {d : Disk} {task : MergeTask}

/-- Whether an entry is stored for a file that belongs to the project and not to its build. -/
def IsPlaced (task : MergeTask) (e : Entry) : Prop :=
  ∃ target, IsAccepted task target ∧ e.directory = Path.parent target ∧
    e.file = Path.baseName target

lemma isPlaced_resultFrom (source : Source) (fromBuild : List Entry) (warnings : List Text)
    (loaded : List Entry × Option Text) :
    ∀ s ∈ (resultFrom d task source fromBuild warnings loaded).entries, IsPlaced task s := by
  intro s hs
  cases isMerged_resultFrom source fromBuild warnings loaded s hs with
  | fresh hfind =>
    obtain ⟨e, target, ⟨_, _, _, ht, _⟩, _, rfl⟩ := exists_isLast hfind
    exact ⟨target, (target?_eq_some.mp ht).2, rfl, rfl⟩
  | kept e target _ ht _ _ hs =>
    rw [hs]
    exact ⟨target, (target?_eq_some.mp ht).2, rfl, rfl⟩

lemma plan_of_result? {r : MergeResult} (h : result? (merge d task).value.2 = some r)
    (ha : r.hasArtifact = true) :
    ∃ plan, (planMerge d (task.located d)).run.value = .ok plan ∧ plan.hasArtifact = true ∧
      r.entries = plan.entries := by
  rw [value_merge] at h
  cases hplan : (planMerge d (task.located d)).run.value with
  | error e => simp [hplan, result?] at h
  | ok plan =>
    rw [hplan] at h
    dsimp only at h
    refine ⟨plan, rfl, ?_⟩
    split at h
    · rename_i hartifact
      split at h
      · obtain rfl := Option.some.inj h
        exact ⟨hartifact, rfl⟩
      · obtain rfl := Option.some.inj h
        exact ⟨hartifact, rfl⟩
    · obtain rfl := Option.some.inj h
      exact ⟨ha, rfl⟩

lemma IsPlaced.path_eq {e : Entry} (h : IsPlaced task e) (hb : task.boundary.IsRooted)
    (hname : '\\' ∉ e.file) (cwd : Text) :
    ∃ target, IsAccepted task target ∧ target.head? = some '/' ∧
      e.path cwd = Path.normalize target := by
  obtain ⟨target, ha, hdir, hfile⟩ := h
  have hrooted := Path.rooted_of_contains hb ha.2
  refine ⟨target, ha, hrooted, ?_⟩
  rw [hfile] at hname
  rw [Entry.path, hdir, hfile, Path.resolve_parent cwd hrooted hname]

/-- Nothing outside the project, and nothing of the build, enters the database. -/
theorem merge_isConfined (d : Disk) (task : MergeTask) (r : MergeResult)
    (hb : task.boundary.IsRooted) (hr : result? (merge d task).value.2 = some r)
    (ha : r.hasArtifact = true) :
    ∀ e ∈ r.entries, '\\' ∉ e.file →
      task.boundary.contains (e.path d.cwd) = true ∧
        Path.isUnder (e.path d.cwd) (Path.absolute d.cwd task.buildDir) = false := by
  intro e he hname
  obtain ⟨plan, hplan, hartifact, hentries⟩ := plan_of_result? hr ha
  obtain ⟨fromBuild, loaded, source, warnings, _, _, rfl⟩ := exists_of_planMerge hplan hartifact
  rw [hentries] at he
  have hplaced := isPlaced_resultFrom source fromBuild warnings loaded e he
  obtain ⟨target, haccepted, hrooted, hpath⟩ :=
    hplaced.path_eq (show (task.located d).boundary.IsRooted from hb) hname d.cwd
  rw [hpath, Path.contains_normalize hrooted, Path.isUnder_normalize hrooted]
  refine ⟨haccepted.2, haccepted.1.resolve_left ?_⟩
  exact Path.normalize_ne_nil _

/-- A file beside the project, one that is come to through the directory above it, a copy in the build
directory of a third one, and an old entry that leaves the project on its way. -/
theorem merge_isConfined_sample :
    let fromBuild : List Entry := [
      { directory := "/p", file := "../q/v.c", arguments := ["gcc", "v.c"] },
      { directory := "/p/sub", file := "..//x.c", arguments := ["gcc", "../x.c"] },
      { directory := "/b", file := "sketch/y.c", arguments := ["gcc", "sketch/y.c"] }]
    let old : List Entry := [{ directory := "/p", file := "../pq/x.c", arguments := ["gcc"] }]
    let d := sampleDisk fromBuild old
    let r : MergeResult := {
      count := 2
      source := .primary
      databasePath := "/d"
      entries := [
        { directory := "/p"
          file := "x.c"
          arguments := ["gcc", "-include", "Arduino.h", "/p/x.c"] },
        { directory := "/p"
          file := "y.c"
          arguments := ["gcc", "-include", "Arduino.h", "/p/y.c"] }]
      discarded := 1
      droppedExisting := 1
      written := true }
    sampleTask.boundary.IsRooted ∧ result? (merge d sampleTask).value.2 = some r ∧
      r.hasArtifact = true ∧ (∀ e ∈ r.entries, '\\' ∉ e.file) ∧
      ∀ e ∈ r.entries, sampleTask.boundary.contains (e.path d.cwd) = true ∧
        Path.isUnder (e.path d.cwd) (Path.absolute d.cwd sampleTask.buildDir) = false := by
  intro fromBuild old d r
  have hr : result? (merge d sampleTask).value.2 = some r := by decide +kernel
  have hname : ∀ e ∈ r.entries, '\\' ∉ e.file := by decide
  exact ⟨isRooted_sampleTask, hr, rfl, hname, fun e he =>
    merge_isConfined d sampleTask r isRooted_sampleTask hr rfl e he (hname e he)⟩

end Database

end SketchBuild
