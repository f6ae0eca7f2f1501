import SketchBuild.Proofs.Database.Incremental
import SketchBuild.Proofs.Database.Origin
import SketchBuild.Proofs.Properties.Includes

namespace SketchBuild

namespace Database

open Flags (includeValues)
open Properties (entryIncludes includePaths)

section Moved

variable {d : Disk} {e : Entry} {target : Text}

/-- Whether no include flag of an entry names the file of the entry. -/
def IncludesApart (cwd : Text) (e : Entry) : Prop :=
  ∀ v ∈ includeValues e.arguments,
    Path.normalize (Path.resolve cwd e.directory v) ≠ Path.normalize (e.path cwd)

instance (cwd : Text) (e : Entry) : Decidable (IncludesApart cwd e) := by
  unfold IncludesApart
  infer_instance

lemma includeValues_replaceSource (cwd directory path : Text) (ht : target.head? = some '/')
    {arguments : List Text} (h : ∀ v ∈ includeValues arguments,
      Path.normalize (Path.resolve cwd directory v) ≠ Path.normalize path) :
    includeValues (replaceSource cwd directory path target arguments) = includeValues arguments := by
  have hinert : Flags.Piece.IsInert target := Flags.Piece.isInert_of_head (by simp [ht])
  have hreplaced : ∀ argument rest, argument.head? ≠ some '-' →
      includeValues (target :: rest) = includeValues (argument :: rest) := by
    intro argument rest hdash
    rw [Flags.includeValues_inert hinert,
      Flags.includeValues_inert (Flags.Piece.isInert_of_head hdash)]
  induction arguments using Flags.Piece.split.induct with
  | case1 => rfl
  | case2 argument =>
    rw [replaceSource]
    split
    · rename_i hhit
      simp only [Bool.and_eq_true, decide_eq_true_eq] at hhit
      exact hreplaced argument [] hhit.1.1
    · rfl
  | case3 flag value rest hflag ih =>
    -- the flag starts with a dash and its value leads elsewhere, so both stay
    rw [Flags.includeValues_pair hflag] at h
    have hdash : flag.head? = some '-' := by simpa using Flags.Piece.head_includeFlags hflag []
    have hvalue := h value (by simp)
    rw [replaceSource, replaceSource, if_neg (by simp [hdash]), if_neg (by simp [hvalue]),
      Flags.includeValues_pair hflag, Flags.includeValues_pair hflag,
      ih fun v hv => h v (List.mem_cons_of_mem _ hv)]
  | case4 argument next rest hflag ih =>
    rw [replaceSource]
    split
    · rename_i hhit
      simp only [Bool.and_eq_true, decide_eq_true_eq] at hhit
      exact hreplaced argument (next :: rest) hhit.1.1
    · apply Flags.includeValues_cons_congr hflag
      apply ih
      exact fun v hv => h v (Flags.mem_includeValues_cons hflag hv)

lemma entryIncludes_oldForm (ht : target.head? = some '/') (h : IncludesApart d.cwd e) :
    entryIncludes d.cwd (oldForm d e target) =
      entryIncludes d.cwd { e with directory := Path.parent target } := by
  rw [Properties.entryIncludes_eq, Properties.entryIncludes_eq, oldForm, arguments_stored,
    includeValues_replaceSource d.cwd e.directory (e.path d.cwd) ht h]
  rfl

lemma entryIncludes_directory {cwd dir : Text} (hdir : dir.head? = some '/')
    (h : Path.normalize e.directory = Path.normalize dir ∨
      ∀ v ∈ includeValues e.arguments, Flags.isFixed v = true) :
    entryIncludes cwd { e with directory := dir } = entryIncludes cwd e := by
  rw [Properties.entryIncludes_eq, Properties.entryIncludes_eq]
  apply List.filterMap_congr
  intro v hv
  rcases h with hsame | hfixed
  · exact Properties.includeDir?_congr cwd hdir hsame.symm v
  · exact Properties.includeDir?_of_isFixed cwd _ _ (hfixed v hv)

end Moved

section Sample

def includeEntry (directory file : Text) : Entry :=
  { directory, file, arguments := ["gcc", "-Iinc", file] }

def keptEntry : Entry :=
  { directory := "/p", file := "x.c", arguments := ["gcc", "-Iinc", "/p/x.c"] }

lemma form_includeEntry (d : Disk) (hd : d.cwd = "/") :
    ∀ e ∈ [includeEntry "/" "p/x.c", includeEntry "/p" "x.c"],
      target? d sampleTask sampleIndex e = some ("/p/x.c" : Text) ∧
        oldForm d e "/p/x.c" = keptEntry := by
  have hempty : ∀ e ∈ [includeEntry "/" "p/x.c", includeEntry "/p" "x.c"],
      target? { root := .dir [], here := [] } sampleTask sampleIndex e = some ("/p/x.c" : Text) ∧
        oldForm { root := .dir [], here := [] } e "/p/x.c" = keptEntry := by decide
  have hcwd : d.cwd = Disk.cwd { root := .dir [], here := [] } := hd
  intro e he
  rw [target?_congr hcwd, oldForm, hcwd]
  exact hempty e he

lemma exists_kept_sample : ∀ e ∈ [includeEntry "/" "p/x.c", includeEntry "/p" "x.c"],
    ∃ d' r, (merge (sampleDisk [] [e]) sampleTask).value = (d', .ok r) ∧ r.hasArtifact = true ∧
      r.entries = [keptEntry] ∧ oldEntries (sampleDisk [] [e]) sampleTask.databasePath = [e] ∧
      buildEntries? (sampleDisk [] [e]) (sampleTask.located (sampleDisk [] [e])) = some [] := by
  have hall : ∀ e ∈ [includeEntry "/" "p/x.c", includeEntry "/p" "x.c"],
      e.IsComplete ∧ e.canonical = e := by decide
  intro e he
  have hnone : ∀ x ∈ ([] : List Entry), x.IsComplete ∧ x.canonical = x := by simp
  have hone : ∀ x ∈ [e], x.IsComplete ∧ x.canonical = x := by simpa using hall e he
  obtain ⟨d', r, hm, ha, _, hentries, _⟩ := exists_upsert_sample hnone hone
  obtain ⟨htarget, hform⟩ := form_includeEntry (sampleDisk [] [e]) rfl e he
  have hfile : (sampleDisk [] [e]).isFile "/p/x.c" = true := isFile_sample "x.c" (by simp)
  have hfresh : freshTable (sampleDisk [] [e]) sampleTask sampleIndex [] = [] := rfl
  have hcarried : carried? (sampleDisk [] [e]) sampleTask sampleIndex [] e = some keptEntry := by
    rw [carried?, htarget, Option.bind_some, if_pos hfile, hform]
    rfl
  refine ⟨d', r, hm, ha, ?_, ?_, ?_⟩
  · rw [hentries, upsert, hfresh, List.filterMap_cons_some hcarried]
    rfl
  · rw [oldEntries, load_sample _ hone]
  · obtain ⟨path, skipped, hread⟩ := isPrimary_sample hnone [e]
    rw [buildEntries?, hread]

end Sample

/-- A kept entry has the include directories that its arguments name in the directory of its file.
They are those of the old entry if it was stored in this directory, or if its include flags do not
depend on a directory. -/
theorem includePaths_of_kept (d d' : Disk) (task : MergeTask) (r : MergeResult)
    (hb : task.boundary.IsRooted) (hm : (merge d task).value = (d', .ok r))
    (ha : r.hasArtifact = true) :
    ∃ fromBuild, buildEntries? d (task.located d) = some fromBuild ∧
      ∀ s ∈ r.entries, s.key ∉ targetKeys d (task.located d) ((task.located d).usedIndex d) fromBuild →
        ∃ e ∈ oldEntries d task.databasePath, ∃ target,
          target? d (task.located d) ((task.located d).usedIndex d) e = some target ∧
          s = oldForm d e target ∧ (IncludesApart d.cwd e →
            includePaths d.cwd [s] = includePaths d.cwd [{ e with directory := s.directory }] ∧
            ((Path.normalize e.directory = Path.normalize s.directory ∨
                ∀ v ∈ includeValues e.arguments, Flags.isFixed v = true) →
              includePaths d.cwd [s] = includePaths d.cwd [e])) := by
  obtain ⟨plan, hplan, hartifact, _, rfl⟩ := ok_of_merge hm ha
  obtain ⟨fromBuild, loaded, source, warnings, hread, hload, rfl⟩ :=
    exists_of_planMerge hplan hartifact
  have hold : oldEntries d task.databasePath = loaded.1 := by
    rw [oldEntries, show task.databasePath = (task.located d).databasePath from rfl, hload]
  refine ⟨fromBuild, hread, ?_⟩
  intro s hs hkey
  rw [hold]
  cases isMerged_resultFrom source fromBuild warnings loaded s hs with
  | fresh hfind =>
    have hsome := (isSome_find?_freshTable s.key).mp (Option.isSome_of_eq_some hfind)
    exact (hkey hsome).elim
  | kept e target he ht _ _ hform =>
    have hb' : (task.located d).boundary.IsRooted := hb
    have hrooted := Path.rooted_of_contains hb' (target?_eq_some.mp ht).2.2
    refine ⟨e, he, target, ht, hform, ?_⟩
    intro happart
    have hmoved : entryIncludes d.cwd s = entryIncludes d.cwd { e with directory := s.directory } := by
      rw [hform, entryIncludes_oldForm hrooted happart]
      rfl
    simp only [Properties.includePaths_singleton]
    refine ⟨by rw [hmoved], ?_⟩
    intro hstable
    have hdir : s.directory.head? = some '/' := by
      rw [hform]
      exact Path.rooted_parent hrooted
    rw [hmoved, entryIncludes_directory hdir hstable]

theorem includePaths_of_kept_sample :
    let e := includeEntry "/p" "x.c"
    let d := sampleDisk [] [e]
    sampleTask.boundary.IsRooted ∧ ∃ d' r, (merge d sampleTask).value = (d', .ok r) ∧
      r.hasArtifact = true ∧ ∃ s ∈ r.entries, IncludesApart d.cwd e ∧
        Path.normalize e.directory = Path.normalize s.directory ∧
        includePaths d.cwd [s] = includePaths d.cwd [e] := by
  intro e d
  obtain ⟨d', r, hm, ha, hentries, hold, hbuild⟩ := exists_kept_sample e (by simp [e])
  have hmem : keptEntry ∈ r.entries := by simp [hentries]
  have happart : IncludesApart d.cwd e := by
    rw [cwd_sample]
    decide
  obtain ⟨fromBuild, hbuild', hkept⟩ :=
    includePaths_of_kept d d' sampleTask r isRooted_sampleTask hm ha
  obtain rfl := Option.some.inj (hbuild.symm.trans hbuild')
  obtain ⟨x, hx, target, _, _, hincludes⟩ :=
    hkept keptEntry hmem (by simp [targetKeys, targets])
  rw [hold, List.mem_singleton] at hx
  subst hx
  have hsame : Path.normalize e.directory = Path.normalize keptEntry.directory := rfl
  exact ⟨isRooted_sampleTask, d', r, hm, ha, keptEntry, hmem, happart, hsame,
    (hincludes happart).2 (Or.inl hsame)⟩

/-- An entry that was stored in another directory than that of its file. The flag is kept as it is,
and names another include directory than before. -/
theorem includePaths_of_kept_moved :
    let e := includeEntry "/" "p/x.c"
    let d := sampleDisk [] [e]
    ∃ d' r, (merge d sampleTask).value = (d', .ok r) ∧ r.hasArtifact = true ∧
      oldEntries d sampleTask.databasePath = [e] ∧
      buildEntries? d (sampleTask.located d) = some [] ∧ r.entries = [keptEntry] ∧
      includePaths d.cwd [e] = ["/inc"] ∧ includePaths d.cwd [keptEntry] = ["/p/inc"] := by
  intro e d
  obtain ⟨d', r, hm, ha, hentries, hold, hbuild⟩ := exists_kept_sample e (by simp [e])
  refine ⟨d', r, hm, ha, hold, hbuild, hentries, ?_, ?_⟩
  · rw [cwd_sample]
    decide
  · rw [cwd_sample]
    decide

end Database

end SketchBuild
