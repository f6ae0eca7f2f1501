import SketchBuild.Proofs.Path.Parts

namespace SketchBuild.Path

lemma rooted_join {base p : Text} (h : base.head? = some '/') : (join base p).head? = some '/' := by
  cases base with
  | nil => simp at h
  | cons c base =>
    rw [join]
    split
    · assumption
    · split
      · simpa using h
      · simpa using h

lemma resolve_relative {cwd base p : Text} (hb : base ≠ []) (hp : isAbsolute p = false) :
    resolve cwd base p = normalize (join base p) := by
  have hdrive : isDriveRooted p = false := by
    rw [isAbsolute] at hp
    exact (Bool.or_eq_false_iff.mp hp).2
  rw [resolve, hdrive, hp, if_neg (by simp), if_neg (by simp), if_neg hb, absolute]

lemma isAnchored_resolve {cwd base p : Text} (hb : base.head? = some '/')
    (hp : isAbsolute p = false) : IsAnchored (resolve cwd base p) := by
  have hne : base ≠ [] := by
    rintro rfl
    simp at hb
  rw [resolve_relative hne hp]
  exact isAnchored_normalize (rooted_join hb)

lemma isAbsolute_of_not_mem {c : Text} (hs : '/' ∉ c) (hb : '\\' ∉ c) : isAbsolute c = false := by
  have hdrive : isDriveRooted c = false := by
    unfold isDriveRooted
    split
    · rename_i a s rest
      have hslash : s ≠ '/' := by
        rintro rfl
        simp at hs
      have hback : s ≠ '\\' := by
        rintro rfl
        simp at hb
      simp [hslash, hback]
    · rfl
  have hslash : c.head? ≠ some '/' := fun h => hs (List.mem_of_mem_head? h)
  have hback : c.head? ≠ some '\\' := fun h => hb (List.mem_of_mem_head? h)
  simp [isAbsolute, hdrive, hslash, hback]

lemma join_name {n : Nat} (hn : IsRoot n) {cs : List Text} (hcs : ∀ x ∈ cs, IsName x) {c : Text}
    (hc : IsName c) : join (spell n cs) c = spell n (cs ++ [c]) := by
  have hslash : c.head? ≠ some '/' := fun h => hc.no_slash (List.mem_of_mem_head? h)
  rw [join, if_neg hslash]
  by_cases hnil : cs = []
  · subst hnil
    have hlast : (spell n []).getLast? = some '/' := by
      rcases hn with rfl | rfl <;> rfl
    rw [hlast, decide_eq_true rfl, Bool.or_true, if_pos rfl, spell_nil, List.nil_append, spell,
      List.intercalate_singleton]
  · have hlast := getLast_spell n cs hnil hcs
    have hne : spell n cs ≠ [] := spell_ne_nil hn cs
    rw [decide_eq_false hne, decide_eq_false hlast, if_neg (by simp), spell_concat n hnil]

lemma resolve_parts (cwd : Text) {p : Text} (hp : IsAnchored p) (hname : baseName p ≠ [])
    (hb : '\\' ∉ baseName p) : resolve cwd (parent p) (baseName p) = p := by
  rcases hp.root_or_name with ⟨n, hn, rfl⟩ | ⟨n, cs, c, hn, hcs, hc, rfl⟩
  · exact (hname (baseName_root n)).elim
  · rw [baseName_spell n cs hc] at hb ⊢
    rw [parent_spell n hcs hc, resolve_relative (spell_ne_nil hn cs)
      (isAbsolute_of_not_mem hc.no_slash hb), join_name hn hcs hc]
    exact hp.normal

lemma exists_stripRight {c : Char} (hc : Text.isBlank c = false) (s : Text) :
    ∃ t, Text.stripRight (c :: s) = c :: t := by
  rw [Text.stripRight, List.reverse_cons, List.dropWhile_append]
  split
  · exact ⟨[], by simp [hc]⟩
  · exact ⟨(s.reverse.dropWhile Text.isBlank).reverse, by simp⟩

lemma toNat_of_isAlpha {c : Char} (h : c.isAlpha = true) :
    (65 ≤ c.toNat ∧ c.toNat ≤ 90) ∨ (97 ≤ c.toNat ∧ c.toNat ≤ 122) := by
  have hletter : (c.isUpper || c.isLower) = true := h
  rcases Bool.or_eq_true_iff.mp hletter with hupper | hlower
  · have hbounds : decide ('A'.val ≤ c.val ∧ c.val ≤ 'Z'.val) = true := hupper
    exact Or.inl (of_decide_eq_true hbounds)
  · have hbounds : (decide ('a'.val ≤ c.val) && decide (c.val ≤ 'z'.val)) = true := hlower
    obtain ⟨hlow, hhigh⟩ := Bool.and_eq_true_iff.mp hbounds
    exact Or.inr ⟨of_decide_eq_true hlow, of_decide_eq_true hhigh⟩

lemma isBlank_of_isAlpha {c : Char} (h : c.isAlpha = true) : Text.isBlank c = false := by
  have hc := toNat_of_isAlpha h
  simp only [Text.isBlank, Bool.or_eq_false_iff, Bool.and_eq_false_iff, decide_eq_false_iff_not]
  omega

lemma ne_of_isAlpha {c : Char} (h : c.isAlpha = true) : c ≠ '/' ∧ c ≠ '\\' ∧ c ≠ '"' := by
  refine ⟨?_, ?_, ?_⟩
  all_goals
    rintro rfl
    revert h
    decide

lemma head_tidy {p : Text} (h : isDriveRooted p = true) : (tidy p).head? ≠ some '/' := by
  unfold isDriveRooted at h
  split at h
  · rename_i c s p
    have hc : c.isAlpha = true := (Bool.and_eq_true_iff.mp h).1
    obtain ⟨hslash, hback, hquote⟩ := ne_of_isAlpha hc
    have hb := isBlank_of_isAlpha hc
    obtain ⟨t, ht⟩ := exists_stripRight hb (':' :: s :: p)
    simp [tidy, Text.strip, Text.stripLeft, hb, ht, hquote, hback, hslash, collapse]
  · simp at h

lemma isAnchored_normalize_of_rooted {p : Text} (h : (normalize p).head? = some '/') :
    IsAnchored (normalize p) :=
  isAnchored_normalize (rooted_of_normalize h)

lemma isAnchored_of_rooted_resolve {cwd base p : Text} (h : (resolve cwd base p).head? = some '/') :
    IsAnchored (resolve cwd base p) := by
  rw [resolve] at h ⊢
  split
  · rename_i hd
    rw [if_pos hd] at h
    exact (head_tidy hd h).elim
  · rename_i hd
    rw [if_neg hd] at h
    split
    · rename_i ha
      rw [if_pos ha] at h
      exact isAnchored_normalize_of_rooted h
    · rename_i ha
      rw [if_neg ha] at h
      exact isAnchored_normalize_of_rooted h

lemma head_append_of_prefix {p r : Text} (hr : r.head? = some '/' ∨ r = [])
    (h : (r ++ ['/']).isPrefixOf p = true) : p.head? = some '/' := by
  obtain ⟨s, rfl⟩ := List.isPrefixOf_iff_prefix.mp h
  rcases hr with hr | rfl
  · cases r with
    | nil => simp at hr
    | cons c r => simpa using hr
  · rfl

lemma head_stripEnd {r : Text} (hr : r.head? = some '/') :
    (Text.stripEnd '/' r).head? = some '/' ∨ Text.stripEnd '/' r = [] := by
  have hpre : Text.stripEnd '/' r <+: r := by
    rw [Text.stripEnd, ← List.reverse_suffix, List.reverse_reverse]
    exact List.dropWhile_suffix _
  obtain ⟨t, ht⟩ := hpre
  cases hs : Text.stripEnd '/' r with
  | nil => exact Or.inr rfl
  | cons c s =>
    rw [hs] at ht
    rw [← ht] at hr
    exact Or.inl (by simpa using hr)

lemma rooted_of_isUnder {p root : Text} (hr : root.head? = some '/')
    (h : isUnder p root = true) : p.head? = some '/' := by
  have hroot := (isAnchored_normalize hr).rooted
  apply rooted_of_normalize
  simp only [isUnder, Bool.or_eq_true, decide_eq_true_eq] at h
  rcases h with h | h
  · rw [h]
    exact hroot
  · exact head_append_of_prefix (head_stripEnd hroot) h

lemma normalize_ne_nil (p : Text) : normalize p ≠ [] := by
  rw [normalize]
  split
  · simp
  · assumption

lemma isUnder_normalize {p : Text} (h : p.head? = some '/') (root : Text) :
    isUnder (normalize p) root = isUnder p root := by
  rw [isUnder, isUnder, (isAnchored_normalize h).normal]

lemma contains_normalize {p : Text} (h : p.head? = some '/') (b : Boundary) :
    b.contains (normalize p) = b.contains p := by
  rw [Boundary.contains, Boundary.contains]
  congr 1
  funext root
  exact isUnder_normalize h root

/-- Every root of a boundary is an absolute path; making a boundary sees to it. -/
def Boundary.IsRooted (b : Boundary) : Prop := ∀ r ∈ b.roots, r.head? = some '/'

lemma rooted_of_contains {b : Boundary} (hb : b.IsRooted) {p : Text} (h : b.contains p = true) :
    p.head? = some '/' := by
  obtain ⟨r, hr, hp⟩ := List.any_eq_true.mp h
  exact rooted_of_isUnder (hb r hr) hp

lemma isRooted_of {cwd : Text} (hc : cwd.head? = some '/') (dirs : List Text) :
    (Boundary.of cwd dirs).IsRooted := by
  intro r hr
  obtain ⟨dir, _, rfl⟩ := List.mem_map.mp hr
  exact (isAnchored_normalize (rooted_join hc)).rooted

end SketchBuild.Path
