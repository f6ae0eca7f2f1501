import SketchBuild.Proofs.Path.Split

namespace SketchBuild.Path

/-- Whether a path has no empty, `.` or `..` components, a slash at its start apart. -/
def IsPlain (p : Text) : Prop :=
  ∀ c ∈ Text.pieces '/' (if p.head? = some '/' then p.tail else p), c ≠ [] ∧ c ≠ ['.'] ∧ c ≠ ['.', '.']

instance (p : Text) : Decidable (IsPlain p) := by
  unfold IsPlain
  infer_instance

lemma intercalate_pieces (sep : Char) (s : Text) : [sep].intercalate (Text.pieces sep s) = s := by
  have hextend : ∀ (c : Char) (ws : List Text), ws ≠ [] →
      [sep].intercalate (Text.extend [c] ws) = c :: [sep].intercalate ws := by
    intro c ws hws
    cases ws with
    | nil => exact (hws rfl).elim
    | cons w ws => cases ws <;> simp [Text.extend]
  induction s with
  | nil => simp [Text.pieces]
  | cons c s ih =>
    rw [Text.pieces]
    split
    · rename_i hc
      cases hp : Text.pieces sep s with
      | nil => exact (pieces_ne_nil sep s hp).elim
      | cons w ws =>
        rw [hp] at ih
        rw [List.intercalate_cons_cons, ih, hc]
        rfl
    · rw [hextend c _ (pieces_ne_nil sep s), ih]

lemma IsPlain.exists_spell {p : Text} (h : IsPlain p) :
    ∃ r cs c, r ≤ 1 ∧ (∀ x ∈ cs, IsName x) ∧ IsName c ∧ p = spell r (cs ++ [c]) := by
  have hsplit : ∀ r s, (∀ c ∈ Text.pieces '/' s, c ≠ [] ∧ c ≠ ['.'] ∧ c ≠ ['.', '.']) →
      ∃ cs c, (∀ x ∈ cs, IsName x) ∧ IsName c ∧ List.replicate r '/' ++ s = spell r (cs ++ [c]) := by
    intro r s hs
    obtain ⟨cs, c, hpieces⟩ := List.eq_nil_or_concat (Text.pieces '/' s) |>.resolve_left
      (pieces_ne_nil '/' s)
    rw [List.concat_eq_append] at hpieces
    have hname : ∀ x ∈ cs ++ [c], IsName x := by
      intro x hx
      rw [← hpieces] at hx
      obtain ⟨hne, hdot, hdots⟩ := hs x hx
      exact ⟨hne, not_mem_of_mem_pieces '/' s x hx, hdot, hdots⟩
    refine ⟨cs, c, fun x hx => hname x (by simp [hx]), hname c (by simp), ?_⟩
    rw [spell, ← hpieces, intercalate_pieces]
  rw [IsPlain] at h
  split at h
  · rename_i hhead
    obtain ⟨cs, c, hcs, hc, hp⟩ := hsplit 1 p.tail h
    refine ⟨1, cs, c, le_rfl, hcs, hc, ?_⟩
    rw [← hp, ← List.cons_head?_tail hhead]
    rfl
  · obtain ⟨cs, c, hcs, hc, hp⟩ := hsplit 0 p h
    exact ⟨0, cs, c, Nat.zero_le 1, hcs, hc, hp⟩

section Spell

variable {r : Nat} {cs : List Text} {c : Text}

lemma forall_isName_concat (hcs : ∀ x ∈ cs, IsName x) (hc : IsName c) :
    ∀ x ∈ cs ++ [c], IsName x := by
  intro x hx
  rcases List.mem_append.mp hx with hx | hx
  · exact hcs x hx
  · rwa [List.mem_singleton.mp hx]

lemma head_spell_zero (hcs : ∀ x ∈ cs, IsName x) : (spell 0 cs).head? ≠ some '/' :=
  head_intercalate cs fun x hx => ⟨(hcs x hx).ne_nil, (hcs x hx).no_slash⟩

lemma length_le_length_spell (hcs : ∀ x ∈ cs, IsName x) : cs.length ≤ (spell r cs).length := by
  have hjoin : cs.length ≤ (['/'].intercalate cs).length := by
    induction cs with
    | nil => simp
    | cons x cs ih =>
      have hx := List.length_pos_iff.mpr (hcs x (by simp)).ne_nil
      have hrest := ih fun y hy => hcs y (by simp [hy])
      cases cs with
      | nil =>
        rw [List.intercalate_singleton]
        exact hx
      | cons y cs =>
        rw [List.intercalate_cons_cons]
        simp only [List.length_append, List.length_cons] at hrest ⊢
        omega
  rw [spell, List.length_append]
  omega

end Spell

end SketchBuild.Path
