import SketchBuild.Proofs.Database.Outcome
import SketchBuild.Proofs.Storage.Document

namespace SketchBuild

namespace Storage

/-- Two documents that are the same, or both without a value. -/
def IsAlike (x y : Except Oversized Document) : Prop :=
  y = x ∨ ∃ reason reason', x = .ok (.unusable reason) ∧ y = .ok (.unusable reason')

variable {d d' : Disk} {path : Text}

lemma isAlike_document (h : (d'.read path).toOption = (d.read path).toOption) :
    IsAlike (document d path) (document d' path) := by
  cases hread : d.read path with
  | ok bytes =>
    rw [hread] at h
    cases hread' : d'.read path with
    | error e => simp [hread', Except.toOption] at h
    | ok bytes' =>
      rw [hread'] at h
      obtain rfl := Option.some.inj h
      exact Or.inl (by rw [document_of_read hread, document_of_read hread'])
  | error e =>
    rw [hread] at h
    cases hread' : d'.read path with
    | ok bytes => simp [hread', Except.toOption] at h
    | error e' =>
      obtain ⟨reason, hreason⟩ := document_of_read_error hread
      obtain ⟨reason', hreason'⟩ := document_of_read_error hread'
      exact Or.inr ⟨reason, reason', hreason, hreason'⟩

end Storage

namespace BuildCache

variable {d d' : Disk} {buildDir : Text}

lemma value_sketchLocation?_alike
    (h : (d'.read (Path.join buildDir optionsFile)).toOption =
      (d.read (Path.join buildDir optionsFile)).toOption) :
    (sketchLocation? d' buildDir).run.value = (sketchLocation? d buildDir).run.value := by
  have hload : ∀ e : Disk, (Storage.load e (Path.join buildDir optionsFile)).run.value =
      Storage.document e (Path.join buildDir optionsFile) := fun _ => rfl
  rw [sketchLocation?, sketchLocation?, Storage.value_run_bind, Storage.value_run_bind, hload, hload]
  rcases Storage.isAlike_document h with hsame | ⟨reason, reason', hd, hd'⟩
  · rw [hsame]
  · rw [hd, hd']

lemma value_entries_alike (hc : d'.cwd = d.cwd) (sketchDir : Text)
    (hcache : (d'.read (Path.join buildDir cacheFile)).toOption =
      (d.read (Path.join buildDir cacheFile)).toOption)
    (hoptions : (d'.read (Path.join buildDir optionsFile)).toOption =
      (d.read (Path.join buildDir optionsFile)).toOption) :
    (entries d' buildDir sketchDir).run.value = (entries d buildDir sketchDir).run.value := by
  have hload : ∀ e : Disk, (Storage.load e (Path.join buildDir cacheFile)).run.value =
      Storage.document e (Path.join buildDir cacheFile) := fun _ => rfl
  have hlocation := value_sketchLocation?_alike hoptions
  rw [entries, entries]
  dsimp only
  rw [Storage.value_run_bind, Storage.value_run_bind, hload, hload]
  rcases Storage.isAlike_document hcache with hsame | ⟨reason, reason', hd, hd'⟩
  · rw [hsame]
    cases Storage.document d (Path.join buildDir cacheFile) with
    | error e => rfl
    | ok v =>
      cases v with
      | unusable reason => rfl
      | value v =>
        cases v with
        | arr elements =>
          dsimp only
          rw [Storage.value_run_bind, Storage.value_run_bind, hlocation]
          cases (sketchLocation? d buildDir).run.value with
          | error e => rfl
          | ok location =>
            simp only [Storage.value_run_bind, Storage.value_run_lift, Storage.value_run_pure, hc]
        | _ => rfl
  · rw [hd, hd']
    rfl

end BuildCache

namespace Database

variable {d d' : Disk} {task : MergeTask}

/-- The files that tell what a build left behind: its own database, and those of its cache unless
the database is a list. -/
def artifactFiles (d : Disk) (buildDir : Text) : List Text :=
  match Storage.document d (Path.join buildDir databaseFile) with
  | .ok (.value (.arr _)) => [Path.join buildDir databaseFile]
  | _ => [Path.join buildDir databaseFile, Path.join buildDir BuildCache.cacheFile,
      Path.join buildDir BuildCache.optionsFile]

def heldEntries? : Except Storage.Oversized Artifact → Option (List Entry)
  | .ok (.primary _ entries _) => some entries
  | .ok (.cache _ entries _) => some entries
  | _ => none

lemma buildEntries?_eq :
    buildEntries? d task = heldEntries? (readArtifact d task.buildDir task.base).run.value := rfl

lemma heldEntries?_readCache_alike {buildDir sketchDir : Text} (reason reason' : Text)
    (h : (BuildCache.entries d' buildDir sketchDir).run.value =
      (BuildCache.entries d buildDir sketchDir).run.value) :
    heldEntries? (readCache d' buildDir sketchDir reason').run.value =
      heldEntries? (readCache d buildDir sketchDir reason).run.value := by
  rw [readCache, readCache, Storage.value_run_bind, Storage.value_run_bind, h]
  cases (BuildCache.entries d buildDir sketchDir).run.value with
  | error e => rfl
  | ok es => cases es <;> rfl

lemma mem_artifactFiles {d : Disk} {buildDir : Text} :
    Path.join buildDir databaseFile ∈ artifactFiles d buildDir := by
  rw [artifactFiles]
  split <;> simp

lemma buildEntries?_alike (hc : d'.cwd = d.cwd)
    (h : ∀ path ∈ artifactFiles d task.buildDir, (d'.read path).toOption = (d.read path).toOption) :
    buildEntries? d' task = buildEntries? d task := by
  have hload : ∀ e : Disk, (Storage.load e (Path.join task.buildDir databaseFile)).run.value =
      Storage.document e (Path.join task.buildDir databaseFile) := fun _ => rfl
  rw [buildEntries?_eq, buildEntries?_eq, readArtifact, readArtifact, Storage.value_run_bind,
    Storage.value_run_bind, hload, hload]
  have hcached : (∀ elements, Storage.document d (Path.join task.buildDir databaseFile) ≠
        .ok (.value (.arr elements))) → (BuildCache.entries d' task.buildDir task.base).run.value =
          (BuildCache.entries d task.buildDir task.base).run.value := by
    intro hnot
    have hfiles : artifactFiles d task.buildDir = [Path.join task.buildDir databaseFile,
        Path.join task.buildDir BuildCache.cacheFile,
        Path.join task.buildDir BuildCache.optionsFile] := by
      rw [artifactFiles]
      split
      · exact (hnot _ ‹_›).elim
      · rfl
    rw [hfiles] at h
    exact BuildCache.value_entries_alike hc task.base (h _ (by simp)) (h _ (by simp))
  rcases Storage.isAlike_document (h _ mem_artifactFiles) with hsame | ⟨reason, reason', hd, hd'⟩
  · rw [hsame]
    cases hdoc : Storage.document d (Path.join task.buildDir databaseFile) with
    | error e => rfl
    | ok v =>
      cases v with
      | unusable reason =>
        exact heldEntries?_readCache_alike _ _ (hcached (by simp [hdoc]))
      | value v =>
        cases v with
        | arr elements => rfl
        | null => exact heldEntries?_readCache_alike _ _ (hcached (by simp [hdoc]))
        | _ =>
          dsimp only
          rw [Storage.value_run_bind, Storage.value_run_bind]
          exact heldEntries?_readCache_alike _ _ (hcached (by simp [hdoc]))
  · rw [hd, hd']
    exact heldEntries?_readCache_alike _ _ (hcached (by simp [hd]))

end Database

end SketchBuild
