import Mathlib.Data.List.TakeWhile
import SketchBuild.Proofs.Path.Resolve

namespace SketchBuild.Path

lemma pieces_separated (sep : Char) (a b : Text) :
    Text.pieces sep (a ++ sep :: b) = Text.pieces sep a ++ Text.pieces sep b := by
  induction a with
  | nil => simp [Text.pieces]
  | cons c a ih =>
    rw [List.cons_append, Text.pieces, Text.pieces, ih]
    by_cases hc : c = sep
    · simp [hc]
    · cases hp : Text.pieces sep a with
      | nil => exact (pieces_ne_nil sep a hp).elim
      | cons w ws => simp [hc, Text.extend]

lemma not_slash_mem_baseName (p : Text) : '/' ∉ baseName p := by
  intro h
  rw [baseName, List.mem_reverse] at h
  simpa using List.mem_takeWhile_imp h

lemma baseName_eq_nil {p : Text} (h : baseName p = []) : p = [] ∨ p.getLast? = some '/' := by
  rcases List.eq_nil_or_concat p with rfl | ⟨s, c, rfl⟩
  · exact Or.inl rfl
  · right
    by_cases hc : c = '/'
    · simp [hc]
    · simp [baseName, hc] at h

lemma eq_append_baseName (p : Text) :
    p = (p.reverse.dropWhile (· ≠ '/')).reverse ++ baseName p := by
  rw [baseName, ← List.reverse_append, List.takeWhile_append_dropWhile, List.reverse_reverse]

lemma head_dropWhile_slash (s : Text) :
    s.dropWhile (· ≠ '/') = [] ∨ ∃ t, s.dropWhile (· ≠ '/') = '/' :: t := by
  cases hd : s.dropWhile (· ≠ '/') with
  | nil => exact Or.inl rfl
  | cons c t =>
    have hne : s.dropWhile (· ≠ '/') ≠ [] := by simp only [hd, ne_eq, reduceCtorEq, not_false_eq_true]
    have hc : decide (c ≠ '/') = false := by
      have hhead := List.head_dropWhile_not (· ≠ '/') hne
      simpa only [hd, List.head_cons] using hhead
    exact Or.inr ⟨t, by rw [show c = '/' by simpa using hc]⟩

lemma split_cases (p : Text) :
    (p = baseName p ∧ parent p = []) ∨
      (∃ n, p = List.replicate (n + 1) '/' ++ baseName p ∧ parent p = List.replicate (n + 1) '/') ∨
      ∃ s c n, c ≠ '/' ∧ p = (s ++ [c]) ++ '/' :: (List.replicate n '/' ++ baseName p) ∧
        parent p = s ++ [c] := by
  have hp := eq_append_baseName p
  rw [parent]
  rcases head_dropWhile_slash p.reverse with hd | ⟨t, hd⟩
  · rw [hd] at hp ⊢
    exact Or.inl ⟨by simpa using hp, rfl⟩
  · right
    rw [hd] at hp ⊢
    by_cases hall : ('/' :: t).all (· = '/') = true
    · have hrep : '/' :: t = List.replicate (t.length + 1) '/' := by
        apply List.eq_replicate_of_mem
        simpa using hall
      left
      refine ⟨t.length, ?_, ?_⟩
      · rwa [hrep, List.reverse_replicate] at hp
      · rw [if_pos hall, hrep]
    · right
      have hslash : ('/' :: t).takeWhile (· = '/') ++ ('/' :: t).dropWhile (· = '/') = '/' :: t :=
        List.takeWhile_append_dropWhile
      have htake : ('/' :: t).takeWhile (· = '/') =
          List.replicate ((t.takeWhile (· = '/')).length + 1) '/' := by
        rw [List.takeWhile_cons_of_pos (by simp)]
        apply List.eq_replicate_of_mem
        intro a ha
        rcases List.mem_cons.mp ha with rfl | ha
        · rfl
        · simpa using List.mem_takeWhile_imp ha
      cases hrest : ('/' :: t).dropWhile (· = '/') with
      | nil =>
        have hmem : ∀ a ∈ '/' :: t, a = '/' := by
          intro a ha
          rw [← hslash, hrest, List.append_nil] at ha
          simpa using List.mem_takeWhile_imp ha
        exact (hall (by simpa using hmem)).elim
      | cons c s =>
        have hc := List.head_dropWhile_not (· = '/') (l := '/' :: t) (by simp [hrest])
        simp only [hrest, List.head_cons, decide_eq_false_iff_not] at hc
        refine ⟨s.reverse, c, (t.takeWhile (· = '/')).length, hc, ?_, ?_⟩
        · rw [← hslash, htake, hrest, List.replicate_succ'] at hp
          calc p = _ := hp
            _ = _ := by simp
        · rw [if_neg hall]
          simp

lemma rootSlashes_append {c : Char} (hc : c ≠ '/') (s t : Text) :
    rootSlashes (s ++ c :: t) = rootSlashes (s ++ [c]) := by
  rcases s with _ | ⟨a, _ | ⟨b, _ | ⟨e, s⟩⟩⟩
  · simp [rootSlashes, hc]
  · by_cases ha : a = '/' <;> simp [rootSlashes, hc, ha]
  · by_cases ha : a = '/' <;> by_cases hb : b = '/' <;> simp [rootSlashes, hc, ha, hb]
  · by_cases ha : a = '/' <;> by_cases hb : b = '/' <;> by_cases he : e = '/' <;>
      simp [rootSlashes, ha, hb, he]

lemma components_slashes (rooted : Bool) (s b : Text) (n : Nat) :
    components rooted (s ++ '/' :: (List.replicate n '/' ++ b)) = components rooted (s ++ '/' :: b) := by
  rw [components, components, pieces_separated, pieces_separated, List.foldl_append,
    List.foldl_append, foldl_push_slashes]

lemma normalize_slashes {c : Char} (hc : c ≠ '/') (s b : Text) (n : Nat) :
    normalize ((s ++ [c]) ++ '/' :: (List.replicate n '/' ++ b)) =
      normalize ((s ++ [c]) ++ '/' :: b) := by
  have hroot : rootSlashes ((s ++ [c]) ++ '/' :: (List.replicate n '/' ++ b)) =
      rootSlashes ((s ++ [c]) ++ '/' :: b) := by
    rw [List.append_assoc, List.append_assoc, List.singleton_append, List.singleton_append,
      rootSlashes_append hc, rootSlashes_append hc s ('/' :: b)]
  rw [normalize, normalize, hroot, components_slashes]

lemma join_slashes (n : Nat) {c : Text} (hc : '/' ∉ c) :
    join (List.replicate (n + 1) '/') c = List.replicate (n + 1) '/' ++ c := by
  have hhead : c.head? ≠ some '/' := fun h => hc (List.mem_of_mem_head? h)
  rw [join, if_neg hhead, List.getLast?_replicate]
  simp

lemma join_directory {a : Char} (ha : a ≠ '/') (s : Text) {c : Text} (hc : '/' ∉ c) :
    join (s ++ [a]) c = (s ++ [a]) ++ '/' :: c := by
  have hhead : c.head? ≠ some '/' := fun h => hc (List.mem_of_mem_head? h)
  rw [join, if_neg hhead]
  simp [ha]

lemma normalize_join_parent {p : Text} (h : p.head? = some '/') :
    normalize (join (parent p) (baseName p)) = normalize p := by
  have hname := not_slash_mem_baseName p
  rcases split_cases p with ⟨hp, _⟩ | ⟨n, hp, hdir⟩ | ⟨s, c, n, hc, hp, hdir⟩
  · rw [hp] at h
    exact (hname (List.mem_of_mem_head? h)).elim
  · rw [hdir, join_slashes n hname, ← hp]
  · conv_rhs => rw [hp]
    rw [hdir, join_directory hc s hname, normalize_slashes hc]

lemma rooted_parent {p : Text} (h : p.head? = some '/') : (parent p).head? = some '/' := by
  rcases split_cases p with ⟨hp, _⟩ | ⟨n, _, hdir⟩ | ⟨s, c, n, _, hp, hdir⟩
  · rw [hp] at h
    exact (not_slash_mem_baseName p (List.mem_of_mem_head? h)).elim
  · rw [hdir]
    rfl
  · rw [hp, List.head?_append_of_ne_nil _ (by simp)] at h
    rwa [hdir]

lemma parent_ne_nil {p : Text} (h : p.head? = some '/') : parent p ≠ [] := by
  intro hnil
  have hrooted := rooted_parent h
  simp [hnil] at hrooted

lemma resolve_parent (cwd : Text) {p : Text} (h : p.head? = some '/') (hb : '\\' ∉ baseName p) :
    resolve cwd (parent p) (baseName p) = normalize p := by
  have habs := isAbsolute_of_not_mem (not_slash_mem_baseName p) hb
  rw [resolve_relative (parent_ne_nil h) habs, normalize_join_parent h]

end SketchBuild.Path
