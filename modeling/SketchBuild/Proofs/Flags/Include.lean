import SketchBuild.Flags.Include
import SketchBuild.Proofs.Path.Resolve
import SketchBuild.Proofs.Text.Strip

namespace SketchBuild.Flags

namespace Piece

lemma single_fused {flag value : Text} (hf : flag ∈ includeFlags) (hv : value ≠ []) :
    flag ++ value ∉ includeFlags ∧ single (flag ++ value) = .fused flag value := by
  cases value with
  | nil => exact (hv rfl).elim
  | cons c value =>
    simp only [includeFlags, List.mem_cons, List.not_mem_nil, or_false] at hf
    rcases hf with rfl | rfl | rfl | rfl
    all_goals
      refine ⟨?_, rfl⟩
      simp [includeFlags]

lemma single_cases (argument : Text) :
    (∃ flag value, flag ∈ includeFlags ∧ value ≠ [] ∧ argument = flag ++ value) ∨
      single argument = .other argument := by
  rw [single]
  cases h : includeFlags.findSome? _ with
  | none => exact Or.inr rfl
  | some piece =>
    left
    obtain ⟨flag, hf, hp⟩ := List.exists_of_findSome?_eq_some h
    split at hp
    · rename_i c value hd
      exact ⟨flag, c :: value, hf, by simp, Text.dropPrefix?_eq_some hd⟩
    · simp at hp

/-- Whether an argument is read alone and names no directory. -/
def IsInert (argument : Text) : Prop :=
  argument ∉ includeFlags ∧ single argument = .other argument

lemma head_includeFlags {flag : Text} (h : flag ∈ includeFlags) (value : Text) :
    (flag ++ value).head? = some '-' := by
  simp only [includeFlags, List.mem_cons, List.not_mem_nil, or_false] at h
  rcases h with rfl | rfl | rfl | rfl <;> rfl

lemma isInert_of_head {argument : Text} (h : argument.head? ≠ some '-') : IsInert argument := by
  constructor
  · intro hf
    exact h (by simpa using head_includeFlags hf [])
  · rcases single_cases argument with ⟨flag, value, hf, _, rfl⟩ | hs
    · exact (h (head_includeFlags hf value)).elim
    · exact hs

lemma split_cons {argument : Text} (h : argument ∉ includeFlags) (rest : List Text) :
    split (argument :: rest) = single argument :: split rest := by
  cases rest with
  | nil => simp [split]
  | cons next rest => simp [split, h]

lemma exists_mapValue_single (f : Text → Text) (hf : ∀ v, v ≠ [] → f v ≠ []) (argument : Text) :
    ∃ placed, ((single argument).mapValue f).arguments = [placed] ∧
      single placed = (single argument).mapValue f ∧
      (argument ∉ includeFlags → placed ∉ includeFlags) := by
  rcases single_cases argument with ⟨flag, value, hflag, hvalue, rfl⟩ | hs
  · obtain ⟨_, hsingle⟩ := single_fused hflag hvalue
    obtain ⟨hmem, hplaced⟩ := single_fused hflag (hf value hvalue)
    exact ⟨flag ++ f value, by simp [hsingle, mapValue, arguments],
      by simp [hsingle, hplaced, mapValue], fun _ => hmem⟩
  · exact ⟨argument, by simp [hs, mapValue, arguments], by simp [hs, mapValue], id⟩

def mapValues (f : Text → Text) (arguments : List Text) : List Text :=
  (split arguments).flatMap fun piece => (piece.mapValue f).arguments

lemma mapValues_cons (f : Text → Text) {argument : Text} (h : argument ∉ includeFlags)
    (rest : List Text) :
    mapValues f (argument :: rest) =
      ((single argument).mapValue f).arguments ++ mapValues f rest := by
  rw [mapValues, split_cons h, List.flatMap_cons, mapValues]

lemma mapValues_pair (f : Text → Text) {flag : Text} (h : flag ∈ includeFlags) (value : Text)
    (rest : List Text) :
    mapValues f (flag :: value :: rest) = flag :: f value :: mapValues f rest := by
  simp [mapValues, split, h, mapValue, arguments]

lemma mapValues_singleton (f : Text → Text) (argument : Text) :
    mapValues f [argument] = ((single argument).mapValue f).arguments := by
  simp [mapValues, split]

lemma split_mapValues (f : Text → Text) (hf : ∀ v, v ≠ [] → f v ≠ []) (ts : List Text) :
    split (mapValues f ts) = (split ts).map (mapValue f) := by
  induction ts using split.induct with
  | case1 => rfl
  | case2 argument =>
    obtain ⟨placed, hplaced, hsingle, _⟩ := exists_mapValue_single f hf argument
    simp [mapValues_singleton, hplaced, split, hsingle]
  | case3 argument next rest h ih =>
    rw [mapValues_pair f h, split, if_pos h, ih, split, if_pos h]
    rfl
  | case4 argument next rest h ih =>
    obtain ⟨placed, hplaced, hsingle, hmem⟩ := exists_mapValue_single f hf argument
    rw [mapValues_cons f h, hplaced, List.singleton_append, split_cons (hmem h), ih, hsingle,
      split_cons h, List.map_cons]

lemma mapValue_mapValue (f g : Text → Text) (hg : ∀ v, g (f v) = f v) (piece : Piece) :
    (piece.mapValue f).mapValue g = piece.mapValue f := by
  cases piece <;> simp [mapValue, hg]

lemma value?_mapValue (f : Text → Text) (piece : Piece) :
    (piece.mapValue f).value? = piece.value?.map f := by
  cases piece <;> rfl

lemma mem_mapValue_single (f : Text → Text) {argument t : Text}
    (h : t ∈ ((single argument).mapValue f).arguments) : t = argument ∨ t.head? = some '-' := by
  rcases single_cases argument with ⟨flag, value, hf, hv, rfl⟩ | hs
  · rw [(single_fused hf hv).2] at h
    obtain rfl : t = flag ++ f value := by simpa [mapValue, arguments] using h
    exact Or.inr (head_includeFlags hf _)
  · exact Or.inl (by simpa [hs, mapValue, arguments] using h)

lemma mem_mapValues (f : Text → Text) (ts : List Text) :
    ∀ t ∈ mapValues f ts, t ∈ ts ∨ t.head? = some '-' ∨ ∃ v ∈ ts, t = f v := by
  intro t ht
  induction ts using split.induct with
  | case1 => simp [mapValues, split] at ht
  | case2 argument =>
    rw [mapValues_singleton] at ht
    rcases mem_mapValue_single f ht with rfl | hs
    · exact Or.inl (by simp)
    · exact Or.inr (Or.inl hs)
  | case3 argument next rest h ih =>
    rw [mapValues_pair f h] at ht
    rcases List.mem_cons.mp ht with rfl | ht
    · exact Or.inl (by simp)
    · rcases List.mem_cons.mp ht with rfl | ht
      · exact Or.inr (Or.inr ⟨next, by simp, rfl⟩)
      · have hsub : rest ⊆ argument :: next :: rest := fun _ hm => by simp [hm]
        exact (ih ht).imp (fun hm => hsub hm) (Or.imp_right fun ⟨v, hv, he⟩ => ⟨v, hsub hv, he⟩)
  | case4 argument next rest h ih =>
    rw [mapValues_cons f h] at ht
    rcases List.mem_append.mp ht with ht | ht
    · rcases mem_mapValue_single f ht with rfl | hs
      · exact Or.inl (by simp)
      · exact Or.inr (Or.inl hs)
    · exact (ih ht).imp (List.mem_cons_of_mem _)
        (Or.imp_right fun ⟨v, hv, he⟩ => ⟨v, List.mem_cons_of_mem _ hv, he⟩)

lemma mapValues_mapValues (f g : Text → Text) (hne : ∀ v, v ≠ [] → f v ≠ [])
    (hg : ∀ v, g (f v) = f v) (ts : List Text) : mapValues g (mapValues f ts) = mapValues f ts := by
  rw [mapValues, split_mapValues f hne, List.flatMap_map]
  simp only [mapValue_mapValue f g hg]
  rfl

end Piece

/-- Two argument lists with the same include flags at the same places. The values of the flags are
those of the first list changed by a function, and all other arguments are the same. -/
inductive ValuesMapped (f : Text → Text) : List Text → List Text → Prop
  | nil : ValuesMapped f [] []
  | pair {flag : Text} (hf : flag ∈ includeFlags) (value : Text) {rest rest' : List Text}
      (h : ValuesMapped f rest rest') :
      ValuesMapped f (flag :: value :: rest) (flag :: f value :: rest')
  | fused {flag value : Text} (hf : flag ∈ includeFlags) (hv : value ≠ []) {rest rest' : List Text}
      (h : ValuesMapped f rest rest') :
      ValuesMapped f ((flag ++ value) :: rest) ((flag ++ f value) :: rest')
  | other {argument : Text} {rest rest' : List Text} (hlast : argument ∈ includeFlags → rest = [])
      (hinner : ∀ flag ∈ includeFlags, flag <+: argument → argument = flag)
      (h : ValuesMapped f rest rest') : ValuesMapped f (argument :: rest) (argument :: rest')

namespace ValuesMapped

variable {f : Text → Text} {ts ts' : List Text}

lemma length_eq (h : ValuesMapped f ts ts') : ts'.length = ts.length := by
  induction h with
  | nil => rfl
  | pair _ _ _ ih => simp [ih]
  | fused _ _ _ ih => simp [ih]
  | other _ _ _ ih => simp [ih]

lemma single (f : Text → Text) {argument : Text} {rest : List Text}
    (hlast : argument ∈ includeFlags → rest = []) (h : ValuesMapped f rest ts') :
    ValuesMapped f (argument :: rest) (((Piece.single argument).mapValue f).arguments ++ ts') := by
  rcases Piece.single_cases argument with ⟨flag, value, hflag, hvalue, rfl⟩ | hs
  · rw [(Piece.single_fused hflag hvalue).2]
    exact .fused hflag hvalue h
  · rw [hs]
    refine .other hlast ?_ h
    rintro flag hflag ⟨value, rfl⟩
    by_contra hne
    have hvalue : value ≠ [] := by
      rintro rfl
      exact hne (List.append_nil flag)
    rw [(Piece.single_fused hflag hvalue).2] at hs
    simp at hs

lemma of_mapValues (f : Text → Text) (ts : List Text) :
    ValuesMapped f ts (Piece.mapValues f ts) := by
  induction ts using Piece.split.induct with
  | case1 => exact .nil
  | case2 argument =>
    rw [Piece.mapValues_singleton, ← List.append_nil (Piece.arguments _)]
    exact single f (fun _ => rfl) .nil
  | case3 flag value rest hflag ih =>
    rw [Piece.mapValues_pair f hflag]
    exact .pair hflag value ih
  | case4 argument next rest hflag ih =>
    rw [Piece.mapValues_cons f hflag]
    exact single f (fun hmem => (hflag hmem).elim) ih

end ValuesMapped

open Piece

def place (cwd base value : Text) : Text :=
  if isFixed value then value else Path.resolve cwd base value

lemma resolveIncludes_eq {cwd base : Text} (hb : base ≠ []) (ts : List Text) :
    resolveIncludes cwd base ts = mapValues (place cwd base) ts := by
  rw [resolveIncludes, if_neg hb]
  rfl

lemma resolveIncludes_cons {cwd base argument : Text} (h : IsInert argument) (rest : List Text) :
    resolveIncludes cwd base (argument :: rest) = argument :: resolveIncludes cwd base rest := by
  by_cases hb : base = []
  · simp [resolveIncludes, hb]
  · rw [resolveIncludes_eq hb, resolveIncludes_eq hb, mapValues_cons _ h.1, h.2]
    rfl

def includeValues (arguments : List Text) : List Text := (split arguments).filterMap Piece.value?

lemma includeValues_pair {flag : Text} (h : flag ∈ includeFlags) (value : Text) (rest : List Text) :
    includeValues (flag :: value :: rest) = value :: includeValues rest := by
  rw [includeValues, split, if_pos h]
  rfl

lemma includeValues_inert {argument : Text} (h : IsInert argument) (rest : List Text) :
    includeValues (argument :: rest) = includeValues rest := by
  rw [includeValues, split_cons h.1, h.2]
  rfl

lemma mem_includeValues_cons {argument v : Text} (h : argument ∉ includeFlags) {rest : List Text}
    (hv : v ∈ includeValues rest) : v ∈ includeValues (argument :: rest) := by
  obtain ⟨piece, hp, hvalue⟩ := List.mem_filterMap.mp hv
  apply List.mem_filterMap.mpr
  rw [split_cons h]
  exact ⟨piece, List.mem_cons_of_mem _ hp, hvalue⟩

lemma includeValues_cons_congr {argument : Text} (h : argument ∉ includeFlags)
    {rest rest' : List Text} (hr : includeValues rest = includeValues rest') :
    includeValues (argument :: rest) = includeValues (argument :: rest') := by
  rw [includeValues, includeValues, split_cons h, split_cons h]
  rw [includeValues, includeValues] at hr
  cases hs : (single argument).value? with
  | none => rwa [List.filterMap_cons_none hs, List.filterMap_cons_none hs]
  | some v => rw [List.filterMap_cons_some hs, List.filterMap_cons_some hs, hr]

variable (cwd : Text) {base : Text} (hb : base.head? = some '/')

include hb

lemma rooted_resolve_of_not_isFixed {value : Text} (h : isFixed value = false) :
    (Path.resolve cwd base value).head? = some '/' := by
  simp only [isFixed, Bool.or_eq_false_iff] at h
  exact (Path.isAnchored_resolve hb h.2).rooted

lemma place_ne_nil {value : Text} (h : value ≠ []) : place cwd base value ≠ [] := by
  rw [place]
  split
  · exact h
  · rename_i hv
    have hr := rooted_resolve_of_not_isFixed cwd hb (Bool.not_eq_true _ ▸ hv)
    intro hn
    simp [hn] at hr

lemma isFixed_place (value : Text) : isFixed (place cwd base value) = true := by
  rw [place]
  split
  · assumption
  · rename_i hv
    have hr := rooted_resolve_of_not_isFixed cwd hb (Bool.not_eq_true _ ▸ hv)
    simp [isFixed, Path.isAbsolute, hr]

lemma place_place (base' value : Text) :
    place cwd base' (place cwd base value) = place cwd base value := by
  have hfixed := isFixed_place cwd hb value
  generalize place cwd base value = placed at hfixed
  rw [place, if_pos hfixed]

lemma resolveIncludes_rooted (ts : List Text) :
    resolveIncludes cwd base ts = mapValues (place cwd base) ts := by
  apply resolveIncludes_eq
  rintro rfl
  simp at hb

lemma resolveIncludes_resolveIncludes (base' : Text) (ts : List Text) :
    resolveIncludes cwd base' (resolveIncludes cwd base ts) = resolveIncludes cwd base ts := by
  by_cases hb' : base' = []
  · rw [resolveIncludes, if_pos hb']
  · rw [resolveIncludes_rooted cwd hb, resolveIncludes_eq hb']
    exact mapValues_mapValues _ _ (fun _ => place_ne_nil cwd hb) (place_place cwd hb base') ts

lemma includeValues_resolveIncludes (ts : List Text) :
    includeValues (resolveIncludes cwd base ts) = (includeValues ts).map (place cwd base) := by
  rw [resolveIncludes_rooted cwd hb, includeValues, split_mapValues _ fun _ => place_ne_nil cwd hb,
    List.filterMap_map, includeValues, List.map_filterMap]
  simp only [Function.comp_def, value?_mapValue]

end SketchBuild.Flags
