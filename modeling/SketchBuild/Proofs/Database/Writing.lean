import SketchBuild.Proofs.Database.Upsert
import SketchBuild.Proofs.Storage.Atomic

namespace SketchBuild.Database

variable {d d' : Disk} {task : MergeTask} {r : MergeResult}

lemma written_resultFrom (source : Source) (fromBuild : List Entry) (warnings : List Text)
    (loaded : List Entry × Option Text) :
    (resultFrom d task source fromBuild warnings loaded).written = false := rfl

lemma unwritable_of_merge {reason : Disk.Error}
    (h : (merge d task).value = (d', .error (.unwritable reason r))) :
    (planMerge d (task.located d)).run.value = .ok r ∧ r.hasArtifact = true ∧
      (Storage.writeJson d task.databasePath (toJson r.entries)).value = (d', .error reason) := by
  rw [value_merge] at h
  cases hplan : (planMerge d (task.located d)).run.value with
  | error e => simp [hplan] at h
  | ok plan =>
    rw [hplan] at h
    dsimp only at h
    split at h
    · rename_i hartifact
      split at h
      · simp at h
      · rename_i hwrite
        obtain ⟨rfl, hr⟩ := Prod.mk.inj h
        obtain ⟨rfl, rfl⟩ := MergeError.unwritable.inj (Except.error.inj hr)
        exact ⟨rfl, hartifact, hwrite⟩
    · simp at h

lemma mergeBy_of_unwritable {reason : Disk.Error}
    (h : (merge d task).value = (d', .error (.unwritable reason r)))
    {write : Disk → Text → Json → Noted (Disk × Except Disk.Error Unit)} {d'' : Disk}
    (hw : (write d task.databasePath (toJson r.entries)).value = (d'', .ok ())) :
    (mergeBy write d task).value = (d'', .ok { r with written := true }) := by
  obtain ⟨hplan, hartifact, _⟩ := unwritable_of_merge h
  rw [value_mergeBy, hplan]
  dsimp only
  rw [if_pos hartifact, hw]

lemma written_of_unwritable {reason : Disk.Error}
    (h : (merge d task).value = (d', .error (.unwritable reason r))) : r.written = false := by
  obtain ⟨hplan, hartifact, _⟩ := unwritable_of_merge h
  obtain ⟨fromBuild, loaded, source, warnings, _, _, rfl⟩ := exists_of_planMerge hplan hartifact
  exact written_resultFrom source fromBuild warnings loaded

/-- A database is written as a whole or not at all; a merge that cannot write it leaves it as it is
and reports the result that it would have had. -/
theorem writes_isAllOrNothing (d : Disk) (path : Text) (h : Path.IsPlain path) :
    (∀ v, Storage.IsAtomic d path v (Storage.writeJson d path v).value) ∧
      ∀ task d' reason r, task.databasePath = path →
        (merge d task).value = (d', .error (.unwritable reason r)) →
          Storage.IsUntouched d d' path ∧ r.written = false ∧
            ∀ write d'', (write d path (toJson r.entries)).value = (d'', .ok ()) →
              (mergeBy write d task).value = (d'', .ok { r with written := true }) := by
  refine ⟨Storage.isAtomic_writeJson d h, ?_⟩
  rintro task d' reason r rfl hm
  refine ⟨?_, written_of_unwritable hm, fun write d'' hw => mergeBy_of_unwritable hm hw⟩
  have hatomic := Storage.isAtomic_writeJson d h (toJson r.entries)
  rw [(unwritable_of_merge hm).2.2] at hatomic
  exact hatomic

section Sample

def misplacedTask : MergeTask := { sampleTask with databasePath := "/p" }

lemma isPrimary_databasePath {d : Disk} {task : MergeTask} {es : List Entry} (path : Text)
    (h : IsPrimary d task es) : IsPrimary d { task with databasePath := path } es := h

lemma isPrimary_misplaced {fromBuild : List Entry}
    (h : ∀ e ∈ fromBuild, e.IsComplete ∧ e.canonical = e) (old : List Entry) :
    IsPrimary (sampleDisk fromBuild old) misplacedTask fromBuild :=
  isPrimary_databasePath "/p" (isPrimary_sample h old)

lemma exists_load_misplaced (fromBuild old : List Entry) :
    ∃ loaded, (load (sampleDisk fromBuild old) misplacedTask.databasePath).run.value =
      .ok loaded := by
  rw [sampleDisk]
  generalize Storage.documentBytes (toJson fromBuild) = built
  generalize Storage.documentBytes (toJson old) = before
  exact ⟨_, rfl⟩

lemma exists_error_misplaced (fromBuild old : List Entry) (v : Json) :
    ∃ reason, (Storage.writeJson (sampleDisk fromBuild old) misplacedTask.databasePath v).value =
      (sampleDisk fromBuild old, .error reason) := by
  rw [Storage.value_writeJson, sampleDisk]
  generalize Storage.documentBytes v = bytes
  generalize Storage.documentBytes (toJson fromBuild) = built
  generalize Storage.documentBytes (toJson old) = before
  exact ⟨_, rfl⟩

lemma exists_unwritable_misplaced (fromBuild old : List Entry)
    (h : ∀ e ∈ fromBuild, e.IsComplete ∧ e.canonical = e) :
    ∃ reason r, (merge (sampleDisk fromBuild old) misplacedTask).value =
      (sampleDisk fromBuild old, .error (.unwritable reason r)) := by
  obtain ⟨loaded, hloaded⟩ := exists_load_misplaced fromBuild old
  obtain ⟨warnings, hplan⟩ := exists_of_isPrimary (isPrimary_misplaced h old)
  rw [hloaded] at hplan
  obtain ⟨plan, hplan, hartifact⟩ : ∃ plan, (planMerge (sampleDisk fromBuild old)
      (misplacedTask.located (sampleDisk fromBuild old))).run.value = .ok plan ∧
        plan.hasArtifact = true := ⟨_, hplan, hasArtifact_resultFrom _ _ _ _⟩
  obtain ⟨reason, hfail⟩ := exists_error_misplaced fromBuild old (toJson plan.entries)
  refine ⟨reason, plan, ?_⟩
  rw [value_merge, hplan]
  dsimp only
  rw [if_pos hartifact, hfail]

end Sample

theorem writes_isAllOrNothing_sample :
    let d := sampleDisk [sampleEntry "x.c"] []
    Path.IsPlain misplacedTask.databasePath ∧
      ∃ reason r, (merge d misplacedTask).value = (d, .error (.unwritable reason r)) ∧
        Storage.IsUntouched d d misplacedTask.databasePath ∧ r.written = false ∧
        ∀ write d'', (write d misplacedTask.databasePath (toJson r.entries)).value = (d'', .ok ()) →
          (mergeBy write d misplacedTask).value = (d'', .ok { r with written := true }) := by
  intro d
  have hplain : Path.IsPlain misplacedTask.databasePath := by decide
  obtain ⟨reason, r, hm⟩ := exists_unwritable_misplaced [sampleEntry "x.c"] []
    fun e he => by
      rw [List.mem_singleton.mp he]
      exact isComplete_sampleEntry (show ("x.c" : Text) ≠ [] by decide)
  exact ⟨hplain, reason, r, hm,
    (writes_isAllOrNothing d misplacedTask.databasePath hplain).2 misplacedTask d reason r rfl hm⟩

end SketchBuild.Database
