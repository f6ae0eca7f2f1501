import SketchBuild.Proofs.Database.Refusal
import SketchBuild.Proofs.Flags.Cleared
import SketchBuild.Proofs.Json.Nesting

/-!
How a merge ends where the files hold nothing that stops a reader by itself: brackets nested too deep,
names that no file has, references that come up again and again behind a prefix.
-/

namespace SketchBuild

namespace Storage

def maxNesting : Nat := 900

def IsShallow (d : Disk) (path : Text) : Prop :=
  ∀ text ∈ documentText? d path, Json.nesting text ≤ maxNesting

instance (d : Disk) (path : Text) : Decidable (IsShallow d path) := by
  unfold IsShallow
  infer_instance

/-- A path without a NUL, and without the character that stands for half of a surrogate pair. -/
def IsName (path : Text) : Prop := '\x00' ∉ path ∧ '\uFFFD' ∉ path

instance (path : Text) : Decidable (IsName path) := by
  unfold IsName
  infer_instance

inductive IsRead (d : Disk) (path : Text) : Except Oversized Document → Prop
  | value {v : Json} (h : v.IsWithin maxNesting) : IsRead d path (.ok (.value v))
  | unusable (reason : Text) : IsRead d path (.ok (.unusable reason))
  | refused {e : Oversized} (h : IsOverlong d path e.digits) : IsRead d path (.error e)

/-- A result that is there unless a document which is read for it has a number with too many digits. -/
structure IsRefusedOnlyBy (d : Disk) (reads : Text → Prop) {α : Type} (x : Except Oversized α) :
    Prop where
  returns : (∀ path, reads path → ∀ n, ¬IsOverlong d path n) → ∃ a, x = .ok a
  refused : ∀ e, x = .error e ↔ ∃ path, reads path ∧ (readJson d path).value = .error e

variable {d : Disk} {path : Text}

lemma isRead_document (h : IsShallow d path) : IsRead d path (document d path) := by
  cases hdocument : document d path with
  | error e => exact .refused (isOverlong_of_document hdocument)
  | ok x =>
    cases x with
    | unusable reason => exact .unusable reason
    | value v =>
      obtain ⟨text, htext, hv⟩ := exists_of_document hdocument
      exact .value ((Json.isWithin_of_read hv).mono (h text htext))

lemma isRefusedOnlyBy {reads : Text → Prop} {α : Type} {x : Except Oversized α}
    (h : ∀ e, x = .error e ↔ ∃ path, reads path ∧ document d path = .error e) :
    IsRefusedOnlyBy d reads x where
  returns := by
    intro hreads
    cases x with
    | ok a => exact ⟨a, rfl⟩
    | error e =>
      obtain ⟨path, hread, hpath⟩ := (h e).mp rfl
      exact (hreads path hread e.digits (isOverlong_of_document hpath)).elim
  refused := h

end Storage

namespace Flags

variable {d : Disk} {base : Text} {arguments : List Text}

/-- The references in some arguments, and in the files to which these lead, are names of files, and the
loop that resolves prefixes ends. -/
structure IsFollowable (d : Disk) (base : Text) (arguments : List Text) : Prop where
  named : ∀ ps words, Leads d base arguments ps words → ∀ argument ∈ words,
    ∀ name ∈ reference? argument, Storage.IsName (Path.resolve d.cwd base name)
  ends : ∃ out, Ends d base ⟨[], none, (expand d base arguments).value⟩ out

lemma Leads.mem_of_closed {lists : List (List Text)} {ps words : List Text}
    (hl : Leads d base arguments ps words) (hstart : arguments ∈ lists)
    (hclosed : ∀ ws ∈ lists, ∀ argument ∈ ws, ∀ name ∈ reference? argument,
      ∀ text ∈ Storage.fileText? d (Path.resolve d.cwd base name), Command.words text ∈ lists) :
    words ∈ lists := by
  induction hl with
  | start => exact hstart
  | next _ hmem hr ht ih => exact hclosed _ ih _ hmem _ hr _ ht

lemma value_normalize_of_ends {out : List Text} (header : Text)
    (h : Ends d base ⟨[], none, (expand d base arguments).value⟩ out) :
    (normalize d base header arguments).value =
      forceHeader header (resolveIncludes d.cwd base out) := by
  simp only [normalize, Noted.value_bind]
  rw [h.value_resolvePrefixes]
  split <;> rfl

end Flags

namespace Database

open SketchBuild.Storage (IsShallow IsRefusedOnlyBy document)

variable {d : Disk} {task : MergeTask}

/-- Nothing in the files that a merge reads stops a reader by itself. -/
structure IsOrdinary (d : Disk) (task : MergeTask) : Prop where
  shallow : ∀ path, ReadsMerge d task path → IsShallow d path
  followable : ∀ fromBuild, buildEntries? d task = some fromBuild → ∀ e ∈ fromBuild, ∀ target,
    target? d task (task.usedIndex d) e = some target → Flags.IsFollowable d e.directory e.arguments

inductive IsEnding (d : Disk) (task : MergeTask) : Disk × Except MergeError MergeResult → Prop
  | result {d' : Disk} {r : MergeResult} (h : r.count = noArtifact → d' = d) :
      IsEnding d task (d', .ok r)
  | unwritable {d' : Disk} {reason : Disk.Error} {r : MergeResult} (h : r.count ≠ noArtifact) :
      IsEnding d task (d', .error (.unwritable reason r))
  | refused {path : Text} {n : Nat} (hread : ReadsMerge d (task.located d) path)
      (h : (Storage.readJson d path).value = .error { digits := n })
      (hn : Storage.IsOverlong d path n) : IsEnding d task (d, .error (.oversized n))

/-- A merge is refused where a document is, and otherwise ends with arguments in which the loop for
prefixes has come to its end. -/
structure EndsInOrder (d : Disk) (task : MergeTask) : Prop where
  ending : IsEnding d task (merge d task).value
  refused : ∀ path e, ReadsMerge d (task.located d) path →
    (Storage.readJson d path).value = .error e → (merge d task).value = (d, .error (.oversized e.digits))
  normalized : ∀ fromBuild, buildEntries? d (task.located d) = some fromBuild → ∀ e ∈ fromBuild,
    ∀ target, target? d (task.located d) ((task.located d).usedIndex d) e = some target →
      ∃ out, Flags.Ends d e.directory ⟨[], none, (Flags.expand d e.directory e.arguments).value⟩ out ∧
        (Flags.normalizeEntry d task.header e).value.arguments =
          Flags.forceHeader task.header (Flags.resolveIncludes d.cwd e.directory out)

lemma isEnding_merge : IsEnding d task (merge d task).value := by
  rw [value_merge]
  cases hplan : (planMerge d (task.located d)).run.value with
  | error e =>
    obtain ⟨path, hread, hpath⟩ := planMerge_eq_error_iff.mp hplan
    exact .refused hread hpath (Storage.isOverlong_of_document hpath)
  | ok plan =>
    dsimp only
    split
    · rename_i hartifact
      have hcount : plan.count ≠ noArtifact := of_decide_eq_true hartifact
      split
      · exact .result fun h => (hcount h).elim
      · exact .unwritable hcount
    · exact .result fun _ => rfl

lemma IsOrdinary.endsInOrder (h : IsOrdinary d (task.located d)) : EndsInOrder d task where
  ending := isEnding_merge
  refused := fun path e hread hpath => merge_eq_oversized_iff.mpr ⟨rfl, path, hread, hpath⟩
  normalized := by
    intro fromBuild hbuild e he target ht
    obtain ⟨out, hout⟩ := (h.followable fromBuild hbuild e he target ht).ends
    exact ⟨out, hout, Flags.value_normalize_of_ends task.header hout⟩

/-- Where nothing in the files stops a reader by itself, only a number with more digits than are read ends
a reading and what depends on it. In every other case documents, entries and artifacts are there, and a
merge has a result or cannot write it. -/
theorem merge_ends (d : Disk) (task : MergeTask) (buildDir sketchDir : Text) :
    (∀ path, IsShallow d path → Storage.IsRead d path (Storage.readJson d path).value) ∧
      ((∀ path, BuildCache.Reads d buildDir path → IsShallow d path) →
        IsRefusedOnlyBy d (BuildCache.Reads d buildDir)
          (BuildCache.entries d buildDir sketchDir).run.value) ∧
      ((∀ path, ReadsArtifact d buildDir path → IsShallow d path) →
        IsRefusedOnlyBy d (ReadsArtifact d buildDir) (readArtifact d buildDir sketchDir).run.value) ∧
      (IsOrdinary d (task.located d) → EndsInOrder d task) :=
  ⟨fun _ => Storage.isRead_document,
    fun _ => Storage.isRefusedOnlyBy fun _ => BuildCache.entries_eq_error_iff,
    fun _ => Storage.isRefusedOnlyBy fun _ => readArtifact_eq_error_iff, IsOrdinary.endsInOrder⟩

lemma isShallow_of_readsArtifact {buildDir path : Text}
    (h : ∀ name ∈ [databaseFile, BuildCache.cacheFile, BuildCache.optionsFile],
      IsShallow d (Path.join buildDir name))
    (hread : ReadsArtifact d buildDir path) : IsShallow d path := by
  cases hread with
  | primary => exact h _ (by simp)
  | cache _ _ hcache =>
    cases hcache with
    | tasks => exact h _ (by simp)
    | options _ => exact h _ (by simp)

section Sample

def buildDisk (bytes : List UInt8) : Disk :=
  { root := .dir [("b", .dir [(databaseFile, .file bytes)])], here := [] }

def buildTask : MergeTask :=
  { buildDir := "/b", boundary := { roots := ["/p"] }, databasePath := "/d" }

def cachedDisk : Disk where
  root := .dir [
    ("b", .dir [
      (databaseFile, .file (Text.Utf8.encode "\x7b\x7d")),
      (BuildCache.cacheFile, .file (Text.Utf8.encode
        "[\x7b\"compile_task\": \x7b\"args\": [\"gcc\", \"-iprefix\", \"/o\", \"@a\", \"x.c\"]\x7d\x7d]"))]),
    ("p", .dir [
      ("x.c", .file []),
      ("a", .file (Text.Utf8.encode "-iwithprefixbefore x -Ii"))])]
  here := []

def cachedEntry : Entry where
  directory := "/p"
  file := "/p/x.c"
  arguments := ["gcc", "-iprefix", "/o", "@a", "x.c"]

lemma isShallow_cachedDisk : ∀ name ∈ [databaseFile, BuildCache.cacheFile, BuildCache.optionsFile],
    IsShallow cachedDisk (Path.join "/b" name) := by
  decide +kernel

lemma isFollowable_cachedEntry :
    Flags.IsFollowable cachedDisk cachedEntry.directory cachedEntry.arguments where
  named := by
    intro ps words h
    have hnamed : ∀ ws ∈ [cachedEntry.arguments, ["-iwithprefixbefore", "x", "-Ii"]], ∀ argument ∈ ws,
        ∀ name ∈ Flags.reference? argument,
          Storage.IsName (Path.resolve cachedDisk.cwd cachedEntry.directory name) := by decide +kernel
    exact hnamed words (h.mem_of_closed (by decide) (by decide +kernel))
  ends := ⟨["gcc", "-I/o/x", "-Ii", "x.c"], 6, none, by decide +kernel⟩

lemma isOrdinary_cachedDisk : IsOrdinary cachedDisk (buildTask.located cachedDisk) where
  shallow := by
    intro path h
    cases h with
    | artifact hartifact => exact isShallow_of_readsArtifact isShallow_cachedDisk hartifact
    | database => decide +kernel
  followable := by
    intro fromBuild hbuild e he _ _
    have hentries : buildEntries? cachedDisk (buildTask.located cachedDisk) = some [cachedEntry] := by
      decide +kernel
    rw [hentries] at hbuild
    rw [← Option.some.inj hbuild, List.mem_singleton] at he
    rw [he]
    exact isFollowable_cachedEntry

lemma isOrdinary_buildDisk : IsOrdinary (buildDisk [0xFF]) (buildTask.located (buildDisk [0xFF])) where
  shallow := by
    intro path h
    cases h with
    | artifact hartifact => exact isShallow_of_readsArtifact (by decide +kernel) hartifact
    | database => decide +kernel
  followable := by
    intro fromBuild hbuild
    have hnone : buildEntries? (buildDisk [0xFF]) (buildTask.located (buildDisk [0xFF])) = none := by
      decide +kernel
    simp [hnone] at hbuild

theorem merge_ends_sample :
    let d := cachedDisk
    let broken := buildDisk [0xFF]
    (∀ path, ReadsArtifact d "/b" path → IsShallow d path) ∧
      Storage.IsRead d (Path.join "/b" BuildCache.cacheFile)
        (Storage.readJson d (Path.join "/b" BuildCache.cacheFile)).value ∧
      IsRefusedOnlyBy d (BuildCache.Reads d "/b") (BuildCache.entries d "/b" "/p").run.value ∧
      IsRefusedOnlyBy d (ReadsArtifact d "/b") (readArtifact d "/b" "/p").run.value ∧
      IsOrdinary d (buildTask.located d) ∧ EndsInOrder d buildTask ∧
      (BuildCache.entries d "/b" "/p").run.value.toOption = some [cachedEntry] ∧
      (merge d buildTask).value.2.toOption = some {
        count := 1
        source := .cache
        databasePath := "/d"
        entries := [{
          directory := "/p"
          file := "x.c"
          arguments := ["gcc", "-include", "Arduino.h", "-I/o/x", "-I/p/i", "/p/x.c"] }]
        warnings := ["/b/compile_commands.json: expected a JSON array, got dict"]
        written := true } ∧
      IsOrdinary broken (buildTask.located broken) ∧ EndsInOrder broken buildTask ∧
      ∃ r, (merge broken buildTask).value = (broken, .ok r) ∧ r.count = noArtifact := by
  intro d broken
  obtain ⟨hread, hentries, hartifact, hmerge⟩ := merge_ends d buildTask "/b" "/p"
  have hshallow : ∀ path, BuildCache.Reads d "/b" path → IsShallow d path := by
    intro path h
    cases h with
    | tasks => exact isShallow_cachedDisk _ (by simp)
    | options _ => exact isShallow_cachedDisk _ (by simp)
  obtain ⟨_, _, _, hbroken⟩ := merge_ends broken buildTask "/b" "/p"
  have hreads : ∀ path, ReadsArtifact d "/b" path → IsShallow d path :=
    fun _ => isShallow_of_readsArtifact isShallow_cachedDisk
  exact ⟨hreads, hread _ (hshallow _ .tasks), hentries hshallow,
    hartifact hreads, isOrdinary_cachedDisk, hmerge isOrdinary_cachedDisk,
    by decide +kernel, by decide +kernel, isOrdinary_buildDisk, hbroken isOrdinary_buildDisk, _, rfl, rfl⟩

def nines : Text := List.replicate 4301 '9'

lemma document_nines :
    document (buildDisk (Text.Utf8.encode nines)) (Path.join "/b" databaseFile) =
      .error { digits := 4301 } := by
  have hread : ∀ bytes, (buildDisk bytes).read (Path.join "/b" databaseFile) = .ok bytes :=
    fun _ => rfl
  have hmem : ∀ c ∈ nines, c = '9' := fun _ => List.eq_of_mem_replicate
  have hascii : ∀ c ∈ nines, c.toNat < 128 := by
    intro c hc
    rw [hmem c hc]
    decide
  have hreturn : '\r' ∉ nines := fun hc => absurd (hmem _ hc) (by decide)
  have hlength : nines.length = 4301 := List.length_replicate
  have hstop : Json.read nines = .error (.oversized nines.length) := by
    apply Json.read_of_digits
    · intro hzero
      exact absurd (hmem '0' (List.mem_of_mem_head? hzero)) (by decide)
    · intro c hc
      rw [hmem c hc]
      decide
    · rw [hlength]
      decide
  rw [Storage.document_of_read (hread _), Storage.documentOfBytes, Text.Utf8.decode_encode hascii]
  dsimp only
  rw [Text.unifyNewlines_self hreturn, hstop]
  dsimp only
  rw [hlength]

/-- A number of 4301 digits in place of the database of a build ends the merge, and nothing takes
its place. -/
theorem merge_ends_overlong :
    let d := buildDisk (Text.Utf8.encode nines)
    (Storage.readJson d (Path.join "/b" databaseFile)).value = .error { digits := 4301 } ∧
      (readArtifact d "/b" "/p").run.value = .error { digits := 4301 } ∧
      (merge d buildTask).value = (d, .error (.oversized 4301)) := by
  intro d
  have hlocated : ReadsMerge d (buildTask.located d) (Path.join "/b" databaseFile) :=
    .artifact .primary
  rw [Storage.value_readJson]
  refine ⟨document_nines, ?_, ?_⟩
  · exact readArtifact_eq_error_iff.mpr ⟨_, .primary, document_nines⟩
  · exact merge_eq_oversized_iff.mpr ⟨rfl, _, hlocated, document_nines⟩

end Sample

end Database

end SketchBuild
