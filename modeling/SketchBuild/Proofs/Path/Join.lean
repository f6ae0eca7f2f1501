import SketchBuild.Proofs.Path.Split

namespace SketchBuild.Path

variable {dir dir' p q : Text}

lemma ne_nil_of_rooted (h : p.head? = some '/') : p ≠ [] := by
  rintro rfl
  simp at h

lemma join_cases (hd : dir ≠ []) (hp : p.head? ≠ some '/') :
    (∃ s, dir = s ++ ['/'] ∧ join dir p = s ++ '/' :: p) ∨
      ∃ s c, c ≠ '/' ∧ dir = s ++ [c] ∧ join dir p = (s ++ [c]) ++ '/' :: p := by
  obtain ⟨s, c, rfl⟩ := List.eq_nil_or_concat dir |>.resolve_left hd
  rw [join, if_neg hp, List.concat_eq_append]
  by_cases hc : c = '/'
  · subst hc
    exact Or.inl ⟨s, rfl, by simp⟩
  · exact Or.inr ⟨s, c, hc, rfl, by simp [hc]⟩

lemma rootSlashes_append_of_head (hd : dir ≠ []) (hp : p.head? ≠ some '/') :
    rootSlashes (dir ++ p) = rootSlashes dir := by
  cases p with
  | nil => rw [List.append_nil]
  | cons c p =>
    have hc : c ≠ '/' := by simpa using hp
    rcases dir with _ | ⟨a, _ | ⟨b, _ | ⟨e, s⟩⟩⟩
    · exact (hd rfl).elim
    · by_cases ha : a = '/' <;> simp [rootSlashes, hc, ha]
    · by_cases ha : a = '/' <;> by_cases hb : b = '/' <;> simp [rootSlashes, hc, ha, hb]
    · by_cases ha : a = '/' <;> by_cases hb : b = '/' <;> by_cases he : e = '/' <;>
        simp [rootSlashes, ha, hb, he]

lemma rootSlashes_join (hd : dir ≠ []) (hp : p.head? ≠ some '/') :
    rootSlashes (join dir p) = rootSlashes dir := by
  rcases join_cases hd hp with ⟨s, rfl, hjoin⟩ | ⟨s, c, hc, rfl, hjoin⟩
  · rw [hjoin, List.append_cons, rootSlashes_append_of_head hd hp]
  · rw [hjoin, List.append_assoc, List.singleton_append, rootSlashes_append hc]

lemma components_join (rooted : Bool) (hd : dir ≠ []) (hp : p.head? ≠ some '/') :
    components rooted (join dir p) =
      ((Text.pieces '/' p).foldl (push rooted) (components rooted dir).reverse).reverse := by
  have hslash : ∀ s, components rooted (s ++ ['/']) = components rooted s := by
    intro s
    rw [components, components, pieces_separated, List.foldl_append]
    simp [Text.pieces]
  have hpieces : ∀ s, components rooted (s ++ '/' :: p) =
      ((Text.pieces '/' p).foldl (push rooted) (components rooted s).reverse).reverse := by
    intro s
    rw [components, components, pieces_separated, List.foldl_append, List.reverse_reverse]
  rcases join_cases hd hp with ⟨s, rfl, hjoin⟩ | ⟨s, c, hc, rfl, hjoin⟩
  · rw [hjoin, hpieces, hslash]
  · rw [hjoin, hpieces]

lemma normalize_join (hd : dir.head? = some '/') (hp : p.head? ≠ some '/') :
    normalize (join dir p) = spell (rootSlashes dir)
      ((Text.pieces '/' p).foldl (push true) (components true dir).reverse).reverse := by
  have hne := ne_nil_of_rooted hd
  rw [normalize_of_rooted (rooted_join hd), rootSlashes_join hne hp, components_join true hne hp]

lemma normalize_eq_iff (hp : p.head? = some '/') (hq : q.head? = some '/') :
    normalize p = normalize q ↔
      rootSlashes p = rootSlashes q ∧ components true p = components true q := by
  rw [normalize_of_rooted hp, normalize_of_rooted hq]
  constructor
  · apply spell_injective
    · exact isRoot_rootSlashes hp
    · exact isRoot_rootSlashes hq
    · exact components_isName p
    · exact components_isName q
  · rintro ⟨hslashes, hnames⟩
    rw [hslashes, hnames]

lemma rooted_congr (hd : dir.head? = some '/') (h : normalize dir = normalize dir') :
    dir'.head? = some '/' := by
  apply rooted_of_normalize
  rw [← h]
  exact (isAnchored_normalize hd).rooted

lemma normalize_join_congr (hd : dir.head? = some '/') (h : normalize dir = normalize dir')
    (p : Text) : normalize (join dir p) = normalize (join dir' p) := by
  by_cases hp : p.head? = some '/'
  · rw [join, join, if_pos hp, if_pos hp]
  · have hd' := rooted_congr hd h
    obtain ⟨hslashes, hnames⟩ := (normalize_eq_iff hd hd').mp h
    rw [normalize_join hd hp, normalize_join hd' hp, hslashes, hnames]

lemma resolve_congr (cwd : Text) (hd : dir.head? = some '/') (h : normalize dir = normalize dir')
    (p : Text) : resolve cwd dir p = resolve cwd dir' p := by
  rw [resolve, resolve, if_neg (ne_nil_of_rooted hd), if_neg (ne_nil_of_rooted (rooted_congr hd h)),
    absolute, absolute, normalize_join_congr hd h]

end SketchBuild.Path
