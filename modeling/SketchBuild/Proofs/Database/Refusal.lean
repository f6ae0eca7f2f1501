import SketchBuild.Proofs.Database.LeftBehind

namespace SketchBuild

open SketchBuild.Storage (Oversized document)

namespace BuildCache

/-- The documents that are read for the entries of a cache: the cache, and the options of the build
if it is a list. -/
inductive Reads (d : Disk) (buildDir : Text) : Text → Prop
  | tasks : Reads d buildDir (Path.join buildDir cacheFile)
  | options {elements : List Json} :
      document d (Path.join buildDir cacheFile) = .ok (.value (.arr elements)) →
        Reads d buildDir (Path.join buildDir optionsFile)

variable {d : Disk} {buildDir sketchDir : Text} {e : Oversized}

lemma sketchLocation?_eq_error_iff :
    (sketchLocation? d buildDir).run.value = .error e ↔
      document d (Path.join buildDir optionsFile) = .error e := by
  rw [sketchLocation?, Storage.value_run_bind_eq_error, Storage.value_run_load, or_iff_left]
  rintro ⟨v, _, hv⟩
  cases v with
  | value v => exact Storage.value_run_pure_ne_error _ e hv
  | unusable reason => exact Storage.value_run_pure_ne_error _ e hv

lemma value_entries_of_error (h : document d (Path.join buildDir cacheFile) = .error e) :
    (entries d buildDir sketchDir).run.value = .error e := by
  rw [entries]
  exact Storage.value_run_load_bind h _

lemma entries_eq_error_of_list {elements : List Json}
    (h : document d (Path.join buildDir cacheFile) = .ok (.value (.arr elements))) :
    (entries d buildDir sketchDir).run.value = .error e ↔
      document d (Path.join buildDir optionsFile) = .error e := by
  rw [entries]
  dsimp only
  rw [Storage.value_run_bind, Storage.value_run_load, h]
  dsimp only
  rw [Storage.value_run_bind_eq_error, sketchLocation?_eq_error_iff, or_iff_left]
  rintro ⟨location, _, hlocation⟩
  rw [Storage.value_run_lift_bind, Storage.value_run_lift_bind, Storage.value_run_lift_bind]
    at hlocation
  exact Storage.value_run_pure_ne_error _ e hlocation

lemma value_entries_of_not_list {v : Storage.Document}
    (h : document d (Path.join buildDir cacheFile) = .ok v)
    (hv : ∀ elements, v ≠ .value (.arr elements)) :
    (entries d buildDir sketchDir).run.value = .ok [] := by
  rw [entries]
  dsimp only
  rw [Storage.value_run_bind, Storage.value_run_load, h]
  cases v with
  | unusable reason => rfl
  | value v =>
    cases v with
    | arr elements => exact (hv elements rfl).elim
    | _ => rfl

lemma entries_eq_error_iff :
    (entries d buildDir sketchDir).run.value = .error e ↔
      ∃ path, Reads d buildDir path ∧ document d path = .error e := by
  constructor
  · intro h
    cases hcache : document d (Path.join buildDir cacheFile) with
    | error e' =>
      obtain rfl := Except.error.inj ((value_entries_of_error hcache).symm.trans h)
      exact ⟨_, .tasks, hcache⟩
    | ok v =>
      by_cases hv : ∃ elements, v = .value (.arr elements)
      · obtain ⟨elements, rfl⟩ := hv
        exact ⟨_, .options hcache, (entries_eq_error_of_list hcache).mp h⟩
      · rw [value_entries_of_not_list hcache fun elements hl => hv ⟨elements, hl⟩] at h
        simp at h
  · rintro ⟨path, hread, hpath⟩
    cases hread with
    | tasks => exact value_entries_of_error hpath
    | options helements => exact (entries_eq_error_of_list helements).mpr hpath

end BuildCache

namespace Database

/-- The documents that are read for the artifact of a build: its own database, and those of its
cache if the database is no list. -/
inductive ReadsArtifact (d : Disk) (buildDir : Text) : Text → Prop
  | primary : ReadsArtifact d buildDir (Path.join buildDir databaseFile)
  | cache {v : Storage.Document} {path : Text} :
      document d (Path.join buildDir databaseFile) = .ok v →
      (∀ elements, v ≠ .value (.arr elements)) → BuildCache.Reads d buildDir path →
        ReadsArtifact d buildDir path

inductive ReadsMerge (d : Disk) (task : MergeTask) : Text → Prop
  | artifact {path : Text} : ReadsArtifact d task.buildDir path → ReadsMerge d task path
  | database {entries : List Entry} : buildEntries? d task = some entries →
      ReadsMerge d task task.databasePath

variable {d d' : Disk} {task : MergeTask} {buildDir sketchDir : Text} {e : Oversized}

lemma readCache_eq_error_iff {reason : Text} :
    (readCache d buildDir sketchDir reason).run.value = .error e ↔
      (BuildCache.entries d buildDir sketchDir).run.value = .error e := by
  rw [readCache, Storage.value_run_bind_eq_error, or_iff_left]
  rintro ⟨es, _, hes⟩
  cases es with
  | nil => exact Storage.value_run_pure_ne_error _ e hes
  | cons f es =>
    dsimp only at hes
    rw [Storage.value_run_lift_bind] at hes
    exact Storage.value_run_pure_ne_error _ e hes

lemma value_readArtifact_of_error (h : document d (Path.join buildDir databaseFile) = .error e) :
    (readArtifact d buildDir sketchDir).run.value = .error e := by
  rw [readArtifact]
  exact Storage.value_run_load_bind h _

lemma readArtifact_ne_error_of_list {elements : List Json}
    (h : document d (Path.join buildDir databaseFile) = .ok (.value (.arr elements))) :
    (readArtifact d buildDir sketchDir).run.value ≠ .error e := by
  rw [readArtifact]
  dsimp only
  rw [Storage.value_run_bind, Storage.value_run_load, h]
  dsimp only
  rw [Storage.value_run_lift_bind]
  exact Storage.value_run_pure_ne_error _ e

lemma readArtifact_eq_error_of_not_list {v : Storage.Document}
    (h : document d (Path.join buildDir databaseFile) = .ok v)
    (hv : ∀ elements, v ≠ .value (.arr elements)) :
    (readArtifact d buildDir sketchDir).run.value = .error e ↔
      (BuildCache.entries d buildDir sketchDir).run.value = .error e := by
  rw [readArtifact]
  dsimp only
  rw [Storage.value_run_bind, Storage.value_run_load, h]
  cases v with
  | unusable reason => exact readCache_eq_error_iff
  | value v =>
    cases v with
    | arr elements => exact (hv elements rfl).elim
    | null => exact readCache_eq_error_iff
    | _ =>
      dsimp only
      rw [Storage.value_run_bind]
      exact readCache_eq_error_iff

lemma readArtifact_eq_error_iff :
    (readArtifact d buildDir sketchDir).run.value = .error e ↔
      ∃ path, ReadsArtifact d buildDir path ∧ document d path = .error e := by
  constructor
  · intro h
    cases hprimary : document d (Path.join buildDir databaseFile) with
    | error e' =>
      obtain rfl := Except.error.inj ((value_readArtifact_of_error hprimary).symm.trans h)
      exact ⟨_, .primary, hprimary⟩
    | ok v =>
      by_cases hv : ∃ elements, v = .value (.arr elements)
      · obtain ⟨elements, rfl⟩ := hv
        exact (readArtifact_ne_error_of_list hprimary h).elim
      · have hnot : ∀ elements, v ≠ .value (.arr elements) := fun elements hl => hv ⟨elements, hl⟩
        obtain ⟨path, hread, hpath⟩ := BuildCache.entries_eq_error_iff.mp
          ((readArtifact_eq_error_of_not_list hprimary hnot).mp h)
        exact ⟨path, .cache hprimary hnot hread, hpath⟩
  · rintro ⟨path, hread, hpath⟩
    cases hread with
    | primary => exact value_readArtifact_of_error hpath
    | cache hprimary hnot hcache =>
      exact (readArtifact_eq_error_of_not_list hprimary hnot).mpr
        (BuildCache.entries_eq_error_iff.mpr ⟨path, hcache, hpath⟩)

lemma load_eq_error_iff {path : Text} :
    (load d path).run.value = .error e ↔ document d path = .error e := by
  rw [load, Storage.value_run_bind_eq_error, Storage.value_run_load, or_iff_left]
  rintro ⟨v, _, hv⟩
  cases v with
  | unusable reason => exact Storage.value_run_pure_ne_error _ e hv
  | value v =>
    cases v with
    | arr elements =>
      dsimp only at hv
      rw [Storage.value_run_lift_bind] at hv
      exact Storage.value_run_pure_ne_error _ e hv
    | _ => exact Storage.value_run_pure_ne_error _ e hv

lemma exists_readsMerge_iff :
    (∃ path, ReadsMerge d task path ∧ document d path = .error e) ↔
      (readArtifact d task.buildDir task.base).run.value = .error e ∨
        ∃ entries, buildEntries? d task = some entries ∧
          (load d task.databasePath).run.value = .error e := by
  rw [readArtifact_eq_error_iff]
  constructor
  · rintro ⟨path, hread, hpath⟩
    cases hread with
    | artifact hartifact => exact Or.inl ⟨path, hartifact, hpath⟩
    | database hentries => exact Or.inr ⟨_, hentries, load_eq_error_iff.mpr hpath⟩
  · rintro (⟨path, hartifact, hpath⟩ | ⟨entries, hentries, hload⟩)
    · exact ⟨path, .artifact hartifact, hpath⟩
    · exact ⟨_, .database hentries, load_eq_error_iff.mp hload⟩

lemma planMerge_eq_error_iff :
    (planMerge d task).run.value = .error e ↔
      ∃ path, ReadsMerge d task path ∧ document d path = .error e := by
  have hmerged : ∀ source fromBuild warnings,
      (mergeArtifact d task source fromBuild warnings).run.value = .error e ↔
        (load d task.databasePath).run.value = .error e := by
    intro source fromBuild warnings
    rw [value_mergeArtifact]
    cases (load d task.databasePath).run.value <;> simp
  rw [exists_readsMerge_iff, value_planMerge, buildEntries?]
  cases (readArtifact d task.buildDir task.base).run.value with
  | error e' => simp
  | ok artifact =>
    cases artifact with
    | absent reason => simp
    | primary path entries skipped => simp [hmerged]
    | cache path entries primaryError => simp [hmerged]

lemma merge_eq_oversized_iff {n : Nat} :
    (merge d task).value = (d', .error (.oversized n)) ↔
      d' = d ∧ ∃ path, ReadsMerge d (task.located d) path ∧
        document d path = .error { digits := n } := by
  refine Iff.trans ?_ (and_congr_right fun _ => planMerge_eq_error_iff)
  rw [value_merge]
  cases (planMerge d (task.located d)).run.value with
  | error e =>
    obtain ⟨digits⟩ := e
    simp [eq_comm]
  | ok plan =>
    dsimp only
    split
    · split <;> simp
    · simp

end Database

end SketchBuild
