import Mathlib.Tactic.Lemma
import Mathlib.Tactic.Tauto
import SketchBuild.Text.Basic

namespace SketchBuild.Text

def Precedes (a b : Text) : Prop := List.Lex (fun c e => c.toNat < e.toNat) a b

lemma precedes_cons_cons {c e : Char} {a b : Text} :
    Precedes (c :: a) (e :: b) ↔ c.toNat < e.toNat ∨ c = e ∧ Precedes a b := List.cons_lex_cons_iff

lemma Precedes.asymm {a b : Text} (h : Precedes a b) : ¬Precedes b a := by
  induction h with
  | nil => exact List.not_lex_nil
  | rel hce =>
    intro h
    rcases precedes_cons_cons.mp h with hec | ⟨rfl, _⟩
    · exact Nat.lt_asymm hce hec
    · exact Nat.lt_irrefl _ hce
  | cons _ ih =>
    intro h
    rcases precedes_cons_cons.mp h with hcc | ⟨_, h⟩
    · exact Nat.lt_irrefl _ hcc
    · exact ih h

lemma isUpTo_cons_cons {c e : Char} {a b : Text} :
    isUpTo (c :: a) (e :: b) = true ↔ c.toNat < e.toNat ∨ c = e ∧ isUpTo a b = true := by
  simp [isUpTo]

lemma isUpTo_iff (a b : Text) : isUpTo a b = true ↔ a = b ∨ Precedes a b := by
  induction a generalizing b with
  | nil =>
    cases b with
    | nil => simp [isUpTo]
    | cons e b => exact iff_of_true rfl (Or.inr List.Lex.nil)
  | cons c a ih =>
    cases b with
    | nil => simp [isUpTo, Precedes]
    | cons e b =>
      rw [isUpTo_cons_cons, ih, precedes_cons_cons, List.cons.injEq]
      tauto

lemma isUpTo_trans {a b c : Text} (hab : isUpTo a b = true) (hbc : isUpTo b c = true) :
    isUpTo a c = true := by
  induction a generalizing b c with
  | nil => rfl
  | cons x a ih =>
    obtain _ | ⟨y, b⟩ := b
    · simp [isUpTo] at hab
    obtain _ | ⟨z, c⟩ := c
    · simp [isUpTo] at hbc
    rw [isUpTo_cons_cons] at hab hbc ⊢
    rcases hab with hxy | ⟨rfl, hab⟩
    · rcases hbc with hyz | ⟨rfl, _⟩
      · exact Or.inl (Nat.lt_trans hxy hyz)
      · exact Or.inl hxy
    · exact hbc.imp_right fun ⟨hxz, hbc⟩ => ⟨hxz, ih hab hbc⟩

lemma isUpTo_total (a b : Text) : isUpTo a b = true ∨ isUpTo b a = true := by
  induction a generalizing b with
  | nil => exact Or.inl rfl
  | cons c a ih =>
    obtain _ | ⟨e, b⟩ := b
    · exact Or.inr rfl
    rw [isUpTo_cons_cons, isUpTo_cons_cons]
    rcases Nat.lt_trichotomy c.toNat e.toNat with hlt | heq | hlt
    · exact Or.inl (Or.inl hlt)
    · obtain rfl := Char.toNat_inj.mp heq
      exact (ih b).imp (fun h => Or.inr ⟨rfl, h⟩) fun h => Or.inr ⟨rfl, h⟩
    · exact Or.inr (Or.inl hlt)

end SketchBuild.Text
