import Mathlib.Data.List.Forall2
import Mathlib.Data.List.Induction
import Mathlib.Data.Nat.Digits.Defs
import SketchBuild.Text.Digit

namespace SketchBuild.Text

lemma digitValue?_digitChar {n : Nat} (h : n < 10) : digitValue? n.digitChar = some n := by
  revert n
  decide

lemma isDigit_of_digitValue? {c : Char} {n : Nat} (h : digitValue? c = some n) :
    isDigit c = true := by
  rw [isDigit, h]
  rfl

lemma digitValue?_lt {c : Char} {n : Nat} (h : digitValue? c = some n) : n < 10 := by
  obtain ⟨z, hz, rfl⟩ := Option.map_eq_some_iff.mp h
  have hbounds := List.find?_some hz
  simp only [Bool.and_eq_true, decide_eq_true_eq] at hbounds
  omega

lemma isDigit_of_mem_ofNat {n : Nat} {c : Char} (h : c ∈ ofNat n) : isDigit c = true := by
  rw [ofNat] at h
  induction n using Nat.strongRecOn with
  | ind n ih =>
    by_cases hn : n < 10
    · rw [Nat.toDigits_of_lt_base hn, List.mem_singleton] at h
      rw [h]
      exact isDigit_of_digitValue? (digitValue?_digitChar hn)
    · rw [Nat.toDigits_of_base_le (by decide) (by omega), List.mem_append, List.mem_singleton] at h
      rcases h with h | rfl
      · exact ih (n / 10) (by omega) h
      · exact isDigit_of_digitValue? (digitValue?_digitChar (Nat.mod_lt n (by decide)))

lemma ofNat_ne_nil (n : Nat) : ofNat n ≠ [] := Nat.toDigits_ne_nil

lemma digitsValue_concat (s : Text) (c : Char) :
    digitsValue (s ++ [c]) = 10 * digitsValue s + (digitValue? c).getD 0 := by
  rw [digitsValue, List.foldl_append]
  rfl

lemma digitsValue_ofNat (n : Nat) : digitsValue (ofNat n) = n := by
  rw [ofNat]
  induction n using Nat.strongRecOn with
  | ind n ih =>
    by_cases hn : n < 10
    · rw [Nat.toDigits_of_lt_base hn, ← List.nil_append [n.digitChar], digitsValue_concat,
        digitValue?_digitChar hn]
      simp [digitsValue]
    · rw [Nat.toDigits_of_base_le (by decide) (by omega), digitsValue_concat, ih (n / 10) (by omega),
        digitValue?_digitChar (Nat.mod_lt n (by decide)), Option.getD_some]
      omega

lemma digitsValue_lt (s : Text) : digitsValue s < 10 ^ s.length := by
  induction s using List.reverseRecOn with
  | nil => simp [digitsValue]
  | append_singleton s c ih =>
    have hdigit : (digitValue? c).getD 0 < 10 := by
      cases hc : digitValue? c with
      | none => decide
      | some n => exact digitValue?_lt hc
    rw [digitsValue_concat, List.length_append, List.length_singleton, Nat.pow_succ]
    omega

section Spells

def IsDigitOf (c : Char) (n : Nat) : Prop := ∃ z ∈ zeros, n < 10 ∧ c.toNat = z + n

/-- What digits of any scripts are worth in base ten, the last one counting once. -/
def Spells (digits : Text) (n : Nat) : Prop :=
  ∃ values, List.Forall₂ IsDigitOf digits values ∧ Nat.ofDigits 10 values.reverse = n

lemma pairwise_zeros : zeros.Pairwise (· + 9 < ·) := by decide

lemma isDigitOf_iff {c : Char} {n : Nat} : IsDigitOf c n ↔ digitValue? c = some n := by
  constructor
  · rintro ⟨z, hz, hn, hc⟩
    -- The scripts have their digits apart, so the run that is found first is the only one.
    obtain ⟨before, after, heq⟩ := List.append_of_mem hz
    have hpairs := pairwise_zeros
    rw [heq, List.pairwise_append] at hpairs
    have hnone : before.find? (fun z => z ≤ c.toNat && c.toNat ≤ z + 9) = none := by
      rw [List.find?_eq_none]
      intro w hw
      have hlt : w + 9 < z := hpairs.2.2 w hw z (by simp)
      simp only [Bool.and_eq_true, decide_eq_true_eq, not_and]
      omega
    have hfind : zeros.find? (fun z => z ≤ c.toNat && c.toNat ≤ z + 9) = some z := by
      rw [heq, List.find?_append, hnone, Option.none_or, List.find?_cons_of_pos]
      simp only [Bool.and_eq_true, decide_eq_true_eq]
      omega
    rw [digitValue?, hfind, Option.map_some, hc, Nat.add_sub_cancel_left]
  · intro h
    obtain ⟨z, hz, rfl⟩ := Option.map_eq_some_iff.mp h
    have hbounds := List.find?_some hz
    simp only [Bool.and_eq_true, decide_eq_true_eq] at hbounds
    exact ⟨z, List.mem_of_find?_eq_some hz, by omega, by omega⟩

lemma digitsValue_eq_ofDigits (s : Text) :
    digitsValue s = Nat.ofDigits 10 (s.map fun c => (digitValue? c).getD 0).reverse := by
  induction s using List.reverseRecOn with
  | nil => rfl
  | append_singleton s c ih =>
    rw [digitsValue_concat, ih, List.map_append, List.map_singleton, List.reverse_concat,
      Nat.ofDigits_cons, Nat.add_comm]

lemma forall₂_isDigitOf_iff {s : Text} {values : List Nat} :
    List.Forall₂ IsDigitOf s values ↔
      (∀ c ∈ s, isDigit c = true) ∧ values = s.map fun c => (digitValue? c).getD 0 := by
  constructor
  · intro h
    induction h with
    | nil => simp
    | @cons c n s values hc _ ih =>
      rw [isDigitOf_iff] at hc
      exact ⟨List.forall_mem_cons.mpr ⟨isDigit_of_digitValue? hc, ih.1⟩, by simp [hc, ← ih.2]⟩
  · rintro ⟨hdigits, rfl⟩
    rw [List.forall₂_map_right_iff, List.forall₂_same]
    intro c hc
    obtain ⟨n, hn⟩ := Option.isSome_iff_exists.mp (hdigits c hc)
    rw [isDigitOf_iff, hn, Option.getD_some]

lemma spells_iff {s : Text} {n : Nat} :
    Spells s n ↔ (∀ c ∈ s, isDigit c = true) ∧ digitsValue s = n := by
  rw [Spells, digitsValue_eq_ofDigits]
  simp only [forall₂_isDigitOf_iff]
  constructor
  · rintro ⟨_, ⟨hdigits, rfl⟩, hn⟩
    exact ⟨hdigits, hn⟩
  · rintro ⟨hdigits, hn⟩
    exact ⟨_, ⟨hdigits, rfl⟩, hn⟩

end Spells

lemma length_ofNat_le {n k : Nat} (hk : 0 < k) (h : n < 10 ^ k) : (ofNat n).length ≤ k :=
  Nat.toDigits_length 10 n k hk h

end SketchBuild.Text
