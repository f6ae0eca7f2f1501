import SketchBuild.Properties
import SketchBuild.Proofs.Flags.Include
import SketchBuild.Proofs.Path.Again
import SketchBuild.Proofs.Path.Join

namespace SketchBuild.Properties

open Flags (includeValues resolveIncludes)

lemma entryIncludes_eq (cwd : Text) (e : Entry) :
    entryIncludes cwd e = (includeValues e.arguments).filterMap (includeDir? cwd e.directory) := rfl

lemma includePaths_singleton (cwd : Text) (e : Entry) :
    includePaths cwd [e] = addNew [] (entryIncludes cwd e) := by
  rw [includePaths, List.flatMap_singleton]

lemma includeDir?_of_isFixed (cwd dir dir' : Text) {v : Text} (h : Flags.isFixed v = true) :
    includeDir? cwd dir v = includeDir? cwd dir' v := by
  rw [includeDir?, includeDir?]
  split
  · rfl
  · rename_i hv
    simp only [Bool.or_eq_true, decide_eq_true_eq, not_or] at hv
    have habsolute : Path.isAbsolute v = true := by simpa [Flags.isFixed, hv.1, hv.2] using h
    rw [Path.resolve, Path.resolve, if_pos habsolute, if_pos habsolute]

lemma includeDir?_congr (cwd : Text) {dir dir' : Text} (hd : dir.head? = some '/')
    (h : Path.normalize dir = Path.normalize dir') (v : Text) :
    includeDir? cwd dir v = includeDir? cwd dir' v := by
  rw [includeDir?, includeDir?, Path.resolve_congr cwd hd h]

lemma includeDir?_place (cwd : Text) {dir : Text} (hd : dir.head? = some '/') (dir' v : Text) :
    includeDir? cwd dir' (Flags.place cwd dir v) = includeDir? cwd dir v := by
  cases hv : Flags.isFixed v with
  | true =>
    rw [Flags.place, if_pos hv]
    exact includeDir?_of_isFixed cwd dir' dir hv
  | false =>
    have hrooted := Flags.rooted_resolve_of_not_isFixed cwd hd hv
    have hne : Path.resolve cwd dir v ≠ [] := by
      intro hnil
      simp [hnil] at hrooted
    rw [Flags.place, if_neg (by simp [hv])]
    simp only [Flags.isFixed, Bool.or_eq_false_iff, decide_eq_false_iff_not] at hv
    rw [includeDir?, includeDir?, Path.resolve_of_isAnchored cwd dir' (Path.isAnchored_resolve hd hv.2)]
    simp [hv.1, hne, hrooted]

lemma entryIncludes_resolveIncludes (cwd : Text) {dir : Text} (hd : dir.head? = some '/')
    (dir' : Text) (ts : List Text) (e : Entry) :
    entryIncludes cwd { e with directory := dir', arguments := resolveIncludes cwd dir ts } =
      entryIncludes cwd { e with directory := dir, arguments := ts } := by
  rw [entryIncludes_eq, entryIncludes_eq, Flags.includeValues_resolveIncludes cwd hd,
    List.filterMap_map]
  apply List.filterMap_congr
  intro v _
  exact includeDir?_place cwd hd dir' v

/-- Include flags can be read from the directory of an entry before their directories are collected.
This changes their values at most, and is done with the first time. -/
theorem includePaths_resolveIncludes (cwd dir dir' : Text) (hd : dir.head? = some '/')
    (ts : List Text) (e : Entry) :
    includePaths cwd [{ e with directory := dir', arguments := resolveIncludes cwd dir ts }] =
        includePaths cwd [{ e with directory := dir, arguments := ts }] ∧
      (resolveIncludes cwd dir ts).length = ts.length ∧
      resolveIncludes cwd dir' (resolveIncludes cwd dir ts) = resolveIncludes cwd dir ts ∧
      Flags.ValuesMapped (Flags.place cwd dir) ts (resolveIncludes cwd dir ts) := by
  have hmapped : Flags.ValuesMapped (Flags.place cwd dir) ts (resolveIncludes cwd dir ts) := by
    rw [Flags.resolveIncludes_rooted cwd hd]
    exact .of_mapValues _ ts
  refine ⟨?_, hmapped.length_eq, Flags.resolveIncludes_resolveIncludes cwd hd dir' ts, hmapped⟩
  rw [includePaths_singleton, includePaths_singleton, entryIncludes_resolveIncludes cwd hd]

theorem includePaths_resolveIncludes_sample :
    let ts : List Text := ["gcc", "-I", "-isystem", "-iquote../q", "-I=r", "-IC:\\x", "y", "-idirafter"]
    let placed : List Text :=
      ["gcc", "-I", "/w/-isystem", "-iquote/q", "-I=r", "-IC:\\x", "y", "-idirafter"]
    let e : Entry := { directory := "/w", file := "a.c", arguments := ts }
    e.directory.head? = some '/' ∧ resolveIncludes "/" e.directory ts = placed ∧
      includePaths "/" [{ e with directory := "/elsewhere", arguments := placed }] =
        includePaths "/" [e] ∧
      includePaths "/" [e] = ["/w/-isystem", "/q", "C:/x"] := by
  intro ts placed e
  have hd : e.directory.head? = some '/' := rfl
  have hplaced : resolveIncludes "/" e.directory ts = placed := by decide
  refine ⟨hd, hplaced, ?_, by decide⟩
  rw [← hplaced]
  exact (includePaths_resolveIncludes "/" e.directory "/elsewhere" hd ts e).1

end SketchBuild.Properties
