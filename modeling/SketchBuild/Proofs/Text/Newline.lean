import Mathlib.Tactic.Lemma
import SketchBuild.Text.Basic

namespace SketchBuild.Text

lemma unifyNewlines_self {s : Text} (h : '\r' ∉ s) : unifyNewlines s = s := by
  induction s with
  | nil => rfl
  | cons c s ih =>
    have hc : c ≠ '\r' := fun hc => h (by simp [hc])
    rw [unifyNewlines.eq_def]
    split
    · rename_i hnil
      simp at hnil
    · simp_all
    · rename_i hcons
      obtain ⟨rfl, rfl⟩ := List.cons.inj hcons
      rw [if_neg hc, ih fun hs => h (by simp [hs])]

lemma not_mem_unifyNewlines (s : Text) : '\r' ∉ unifyNewlines s := by
  fun_induction unifyNewlines s with
  | case1 => simp
  | case2 s ih => simpa using ih
  | case3 c s _ ih =>
    rw [List.mem_cons, not_or]
    refine ⟨?_, ih⟩
    split
    · decide
    · rename_i hc
      exact Ne.symm hc

lemma mem_of_mem_unifyNewlines {c : Char} {s : Text} (hc : c ≠ '\n') (h : c ∈ unifyNewlines s) :
    c ∈ s := by
  fun_induction unifyNewlines s with
  | case1 => exact h
  | case2 s ih =>
    rcases List.mem_cons.mp h with rfl | h
    · exact (hc rfl).elim
    · simp [ih h]
  | case3 a s _ ih =>
    rcases List.mem_cons.mp h with hca | h
    · split at hca
      · exact (hc hca).elim
      · rw [hca]
        exact List.mem_cons_self
    · exact List.mem_cons_of_mem a (ih h)

lemma prefix_of_prefix_unifyNewlines {p s : Text} (hp : '\n' ∉ p) (h : p <+: unifyNewlines s) :
    p <+: s := by
  fun_induction unifyNewlines s generalizing p with
  | case1 => exact h
  | case2 s ih =>
    rcases List.prefix_cons_iff.mp h with rfl | ⟨q, rfl, _⟩
    · exact List.nil_prefix
    · simp at hp
  | case3 a s _ ih =>
    rcases List.prefix_cons_iff.mp h with rfl | ⟨q, rfl, hq⟩
    · exact List.nil_prefix
    · rw [List.mem_cons, not_or] at hp
      split at hp
      · simp at hp
      · rename_i ha
        rw [if_neg ha]
        exact (List.prefix_cons_inj a).mpr (ih hp.2 hq)

lemma infix_of_infix_unifyNewlines {p s : Text} (hp : '\n' ∉ p) (h : p <:+: unifyNewlines s) :
    p <:+: s := by
  fun_induction unifyNewlines s with
  | case1 => exact h
  | case2 s ih =>
    rcases List.infix_cons_iff.mp h with hprefix | hinfix
    · rcases List.prefix_cons_iff.mp hprefix with rfl | ⟨q, rfl, _⟩
      · exact List.nil_infix
      · simp at hp
    · exact (ih hinfix).trans (List.suffix_append ['\r', '\n'] s).isInfix
  | case3 a s hs ih =>
    rcases List.infix_cons_iff.mp h with hprefix | hinfix
    · rw [← unifyNewlines.eq_3 a s hs] at hprefix
      exact (prefix_of_prefix_unifyNewlines hp hprefix).isInfix
    · exact (ih hinfix).trans (List.suffix_cons a s).isInfix

lemma unifyNewlines_append {s t : Text} (h : s.getLast? = some '\r' → t.head? ≠ some '\n') :
    unifyNewlines (s ++ t) = unifyNewlines s ++ unifyNewlines t := by
  have hcons : ∀ {c : Char} {s : Text}, ((c :: s).getLast? = some '\r' → t.head? ≠ some '\n') →
      s.getLast? = some '\r' → t.head? ≠ some '\n' := by
    intro c s h hs
    exact h (by rw [List.getLast?_cons, hs, Option.getD_some])
  fun_induction unifyNewlines s with
  | case1 => rfl
  | case2 s ih =>
    rw [List.cons_append, List.cons_append, unifyNewlines, ih (hcons (hcons h)), List.cons_append]
  | case3 c s hs ih =>
    have hpair : ∀ rest, c = '\r' → s ++ t = '\n' :: rest → False := by
      rintro rest rfl heq
      cases s with
      | nil => exact h rfl (by rw [← List.nil_append t, heq, List.head?_cons])
      | cons a s => exact hs s rfl (by rw [(List.cons.inj heq).1])
    rw [List.cons_append, unifyNewlines.eq_3 _ _ hpair, ih (hcons h), List.cons_append]

end SketchBuild.Text
