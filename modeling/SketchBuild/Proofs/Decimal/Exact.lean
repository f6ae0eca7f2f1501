import Mathlib.Data.Int.Log
import Mathlib.Data.Rat.Floor
import Mathlib.Tactic.Positivity
import Mathlib.Tactic.Ring
import SketchBuild.Decimal.Shortest
import SketchBuild.Proofs.Decimal.Numeral

namespace SketchBuild.Binary64

section Log

variable {x : ℚ} {k : Int}

lemma zpow_le_iff_le_log (hx : 0 < x) : (2 : ℚ) ^ k ≤ x ↔ k ≤ Int.log 2 x := by
  exact_mod_cast Int.zpow_le_iff_le_log one_lt_two hx

lemma lt_zpow_iff_log_lt (hx : 0 < x) : x < (2 : ℚ) ^ k ↔ Int.log 2 x < k := by
  exact_mod_cast Int.lt_zpow_iff_log_lt one_lt_two hx

end Log

section Scale

variable {num den : Nat}

lemma zpow_toNat (k : Int) :
    (2 : ℚ) ^ k = (2 : ℚ) ^ k.toNat / (2 : ℚ) ^ (-k).toNat := by
  rw [← zpow_natCast, ← zpow_natCast, ← zpow_sub₀ two_ne_zero]
  congr 1
  omega

lemma scaleDown_ratio (num den : Nat) (k : Int) :
    ((scaleDown num den k).1 : ℚ) / (scaleDown num den k).2 = num / den / (2 : ℚ) ^ k := by
  rw [scaleDown, zpow_toNat k]
  simp only [Nat.pow_eq]
  push_cast
  rw [mul_div_mul_comm, div_div_eq_mul_div, mul_div_assoc]

lemma scaleDown_pos (hden : 0 < den) (k : Int) : 0 < (scaleDown num den k).2 :=
  Nat.mul_pos hden (Nat.pow_pos two_pos)

lemma scaleDown_le_iff (hden : 0 < den) (k : Int) :
    (scaleDown num den k).2 ≤ (scaleDown num den k).1 ↔ (2 : ℚ) ^ k ≤ num / den := by
  have hpos : (0 : ℚ) < (scaleDown num den k).2 := by exact_mod_cast scaleDown_pos hden k
  have hpow : (0 : ℚ) < (2 : ℚ) ^ k := zpow_pos two_pos k
  rw [← one_le_div hpow, ← scaleDown_ratio, one_le_div hpos, Nat.cast_le]

lemma log2_bounds {n : Nat} (h : n ≠ 0) :
    (2 : ℚ) ^ (n.log2 : Int) ≤ n ∧ (n : ℚ) < (2 : ℚ) ^ ((n.log2 : Int) + 1) := by
  constructor
  · rw [zpow_natCast]
    exact_mod_cast Nat.log2_self_le h
  · have hlt := Nat.lt_log2_self (n := n)
    rw [← Nat.cast_succ, zpow_natCast]
    exact_mod_cast hlt

lemma floorLog2_eq_log (hnum : 0 < num) (hden : 0 < den) :
    floorLog2 num den = Int.log 2 (num / den : ℚ) := by
  obtain ⟨hnum_low, hnum_high⟩ := log2_bounds hnum.ne'
  obtain ⟨hden_low, hden_high⟩ := log2_bounds hden.ne'
  have hpos : (0 : ℚ) < den := by exact_mod_cast hden
  have hratio : (0 : ℚ) < num / den := div_pos (by exact_mod_cast hnum) hpos
  have hlow : (num.log2 : Int) - den.log2 - 1 ≤ Int.log 2 (num / den : ℚ) := by
    rw [← zpow_le_iff_le_log hratio, le_div_iff₀ hpos]
    calc (2 : ℚ) ^ ((num.log2 : Int) - den.log2 - 1) * den
        ≤ (2 : ℚ) ^ ((num.log2 : Int) - den.log2 - 1) * (2 : ℚ) ^ ((den.log2 : Int) + 1) :=
          mul_le_mul_of_nonneg_left hden_high.le (zpow_pos two_pos _).le
      _ = (2 : ℚ) ^ (num.log2 : Int) := by
          rw [← zpow_add₀ two_ne_zero]
          congr 1
          omega
      _ ≤ num := hnum_low
  have hhigh : Int.log 2 (num / den : ℚ) < (num.log2 : Int) - den.log2 + 1 := by
    rw [← lt_zpow_iff_log_lt hratio, div_lt_iff₀ hpos]
    calc (num : ℚ) < (2 : ℚ) ^ ((num.log2 : Int) + 1) := hnum_high
      _ = (2 : ℚ) ^ ((num.log2 : Int) - den.log2 + 1) * (2 : ℚ) ^ (den.log2 : Int) := by
          rw [← zpow_add₀ two_ne_zero]
          congr 1
          omega
      _ ≤ (2 : ℚ) ^ ((num.log2 : Int) - den.log2 + 1) * den :=
          mul_le_mul_of_nonneg_left hden_low (zpow_pos two_pos _).le
  have hiff : (scaleDown num den ((num.log2 : Int) - den.log2)).2 ≤
      (scaleDown num den ((num.log2 : Int) - den.log2)).1 ↔
        (num.log2 : Int) - den.log2 ≤ Int.log 2 (num / den : ℚ) :=
    (scaleDown_le_iff hden _).trans (zpow_le_iff_le_log hratio)
  rw [floorLog2]
  dsimp only
  split <;> omega

end Scale

lemma roundDiv_mul (m : Nat) {den : Nat} (hden : 0 < den) : roundDiv (m * den) den = m := by
  rw [roundDiv, Nat.mul_div_cancel m hden, Nat.mul_mod_left]
  simp [hden.ne']

lemma ofRatio_exact (negative : Bool) {num den mantissa : Nat} {exponent : Int}
    (c : Canonical mantissa exponent) (hm : mantissa ≠ 0) (hden : 0 < den)
    (h : num * 2 ^ (-exponent).toNat = mantissa * (den * 2 ^ exponent.toNat)) :
    ofRatio negative num den = .finite negative mantissa exponent c := by
  have hnum : 0 < num := by
    rcases Nat.eq_zero_or_pos num with rfl | hpos
    · rw [Nat.zero_mul] at h
      exact absurd h.symm (Nat.mul_ne_zero hm (Nat.mul_ne_zero hden.ne' (by positivity)))
    · exact hpos
  have hvalue : (num / den : ℚ) = mantissa * (2 : ℚ) ^ exponent := by
    have hcast : (num * 2 ^ (-exponent).toNat : ℚ) = mantissa * (den * 2 ^ exponent.toNat) := by
      exact_mod_cast h
    have hpos : (den : ℚ) ≠ 0 := by exact_mod_cast hden.ne'
    rw [zpow_toNat, div_eq_iff hpos, mul_div_assoc', div_mul_eq_mul_div,
      eq_div_iff (by positivity), hcast]
    ring
  have hratio : (0 : ℚ) < num / den := div_pos (by exact_mod_cast hnum) (by exact_mod_cast hden)
  have hpow : (0 : ℚ) < (2 : ℚ) ^ exponent := zpow_pos two_pos exponent
  have hbelow : ∀ k : Nat, mantissa < 2 ^ k → Int.log 2 (num / den : ℚ) < k + exponent := by
    intro k hk
    rw [← lt_zpow_iff_log_lt hratio, hvalue, zpow_add₀ two_ne_zero, zpow_natCast]
    exact mul_lt_mul_of_pos_right (by exact_mod_cast hk) hpow
  have habove : ∀ k : Nat, 2 ^ k ≤ mantissa → k + exponent ≤ Int.log 2 (num / den : ℚ) := by
    intro k hk
    rw [← zpow_le_iff_le_log hratio, hvalue, zpow_add₀ two_ne_zero, zpow_natCast]
    exact mul_le_mul_of_nonneg_right (by exact_mod_cast hk) hpow.le
  have hexponent : max (floorLog2 num den - 52) (-1074) = exponent := by
    rw [floorLog2_eq_log hnum hden]
    rcases c with ⟨hlow, hhigh, hmin, _⟩ | ⟨hhigh, hmin⟩
    · have := habove 52 hlow
      have := hbelow 53 hhigh
      omega
    · have := hbelow 52 hhigh
      omega
  have hround : roundDiv (scaleDown num den exponent).1 (scaleDown num den exponent).2 =
      mantissa := by
    have heq : (scaleDown num den exponent).1 = mantissa * (scaleDown num den exponent).2 := h
    rw [heq, roundDiv_mul mantissa (scaleDown_pos hden exponent)]
  have hlarge : mantissa ≠ Nat.pow 2 53 := by
    rcases c with ⟨_, hhigh, _⟩ | ⟨hhigh, _⟩
    · exact hhigh.ne
    · exact (hhigh.trans (by decide)).ne
  rw [ofRatio, if_neg hnum.ne']
  dsimp only
  rw [hexponent, hround, if_neg hlarge, dif_pos c]

section Decimal

variable {mantissa : Nat} {exponent : Int}

lemma lt_pow_length_toDigits (n : Nat) : n < 10 ^ (Nat.toDigits 10 n).length :=
  (Nat.length_toDigits_le_iff (by decide) Nat.length_toDigits_pos).mp le_rfl

lemma pow_length_toDigits_le {n : Nat} (h : n ≠ 0) : 10 ^ ((Nat.toDigits 10 n).length - 1) ≤ n := by
  by_contra hlt
  have hpos : 0 < (Nat.toDigits 10 n).length := Nat.length_toDigits_pos
  rcases Nat.eq_zero_or_pos ((Nat.toDigits 10 n).length - 1) with hone | hmore
  · rw [hone] at hlt
    omega
  · have hle := (Nat.length_toDigits_le_iff (by decide) hmore).mpr (not_le.mp hlt)
    omega

lemma ofDecimal_eq_ofRatio (negative : Bool) {digits : Nat} {power : Int} (hdigits : digits ≠ 0)
    (hlow : 10 ^ (-power).toNat ≤ digits * 10 ^ power.toNat * 10 ^ 330)
    (hhigh : digits * 10 ^ power.toNat < 10 ^ (-power).toNat * 10 ^ 309) :
    ofDecimal negative digits power =
      ofRatio negative (digits * 10 ^ power.toNat) (10 ^ (-power).toNat) := by
  have hlt := lt_pow_length_toDigits digits
  have hle := pow_length_toDigits_le hdigits
  rw [ofDecimal]
  generalize (Nat.toDigits 10 digits).length = size at hlt hle
  have hsmall : ¬power + size < -330 := by
    intro h
    have hpow : 10 ^ (-power).toNat < 10 ^ (size + 330) := by
      rw [show power.toNat = 0 by omega, pow_zero, mul_one] at hlow
      rw [pow_add]
      exact hlow.trans_lt (Nat.mul_lt_mul_of_pos_right hlt (by positivity))
    have := (Nat.pow_lt_pow_iff_right (by decide)).mp hpow
    omega
  have hlarge : ¬310 < power + size := by
    intro h
    have hpow : 10 ^ (size - 1 + power.toNat) < 10 ^ ((-power).toNat + 309) := by
      rw [pow_add, pow_add]
      exact (Nat.mul_le_mul_right _ hle).trans_lt hhigh
    have := (Nat.pow_lt_pow_iff_right (by decide)).mp hpow
    omega
  rw [if_neg (by simp [hdigits, hsmall]), if_neg hlarge]
  rfl

lemma ofDecimal_exact (negative : Bool) {digits : Nat} {power : Int}
    (c : Canonical mantissa exponent) (hm : mantissa ≠ 0)
    (h : digits * 10 ^ power.toNat * 2 ^ (-exponent).toNat =
      mantissa * (10 ^ (-power).toNat * 2 ^ exponent.toNat)) :
    ofDecimal negative digits power = .finite negative mantissa exponent c := by
  have hexponent : -1074 ≤ exponent ∧ exponent ≤ 971 ∧ mantissa < 2 ^ 53 := by
    rcases c with ⟨_, hlt, hmin, hmax⟩ | ⟨hlt, heq⟩
    · exact ⟨hmin, hmax, hlt⟩
    · exact ⟨heq.ge, by omega, lt_trans hlt (by decide)⟩
  obtain ⟨hmin, hmax, hlt⟩ := hexponent
  have hpower : 0 < 10 ^ (-power).toNat := by positivity
  have hdigits : digits ≠ 0 := by
    rintro rfl
    rw [Nat.zero_mul, Nat.zero_mul] at h
    exact absurd h.symm (Nat.mul_ne_zero hm (by positivity))
  have hlow : 10 ^ (-power).toNat ≤ digits * 10 ^ power.toNat * 10 ^ 330 := by
    calc 10 ^ (-power).toNat ≤ 10 ^ (-power).toNat * 2 ^ exponent.toNat :=
          Nat.le_mul_of_pos_right _ (by positivity)
      _ ≤ mantissa * (10 ^ (-power).toNat * 2 ^ exponent.toNat) :=
          Nat.le_mul_of_pos_left _ (Nat.pos_of_ne_zero hm)
      _ = digits * 10 ^ power.toNat * 2 ^ (-exponent).toNat := h.symm
      _ ≤ digits * 10 ^ power.toNat * 2 ^ 1074 :=
          Nat.mul_le_mul_left _ (Nat.pow_le_pow_right two_pos (by omega))
      _ ≤ digits * 10 ^ power.toNat * 10 ^ 330 := Nat.mul_le_mul_left _ (by decide +kernel)
  have hhigh : digits * 10 ^ power.toNat < 10 ^ (-power).toNat * 10 ^ 309 := by
    calc digits * 10 ^ power.toNat
        ≤ digits * 10 ^ power.toNat * 2 ^ (-exponent).toNat :=
          Nat.le_mul_of_pos_right _ (by positivity)
      _ = mantissa * (10 ^ (-power).toNat * 2 ^ exponent.toNat) := h
      _ < 2 ^ 53 * (10 ^ (-power).toNat * 2 ^ exponent.toNat) :=
          Nat.mul_lt_mul_of_pos_right hlt (by positivity)
      _ ≤ 2 ^ 53 * (10 ^ (-power).toNat * 2 ^ 971) :=
          Nat.mul_le_mul_left _ (Nat.mul_le_mul_left _ (Nat.pow_le_pow_right two_pos (by omega)))
      _ = 10 ^ (-power).toNat * (2 ^ 53 * 2 ^ 971) := mul_left_comm _ _ _
      _ ≤ 10 ^ (-power).toNat * 10 ^ 309 := Nat.mul_le_mul_left _ (by decide +kernel)
  rw [ofDecimal_eq_ofRatio negative hdigits hlow hhigh]
  exact ofRatio_exact negative c hm hpower h

end Decimal

section Sign

def withSign (negative : Bool) : Binary64 → Binary64
  | .nan => .nan
  | .infinite _ => .infinite negative
  | .finite _ mantissa exponent canonical => .finite negative mantissa exponent canonical

lemma ofRatio_eq_withSign (negative : Bool) (num den : Nat) :
    ofRatio negative num den = withSign negative (ofRatio false num den) := by
  rw [ofRatio, ofRatio]
  split
  · rfl
  · dsimp only
    split
    all_goals
      split
      · rfl
      · rfl

lemma ofDecimal_eq_withSign (negative : Bool) (digits : Nat) (power : Int) :
    ofDecimal negative digits power = withSign negative (ofDecimal false digits power) := by
  rw [ofDecimal, ofDecimal]
  split
  · rfl
  · split
    · rfl
    · exact ofRatio_eq_withSign negative _ _

lemma eq_of_withSign {negative sign : Bool} {x : Binary64} {mantissa : Nat} {exponent : Int}
    {c : Canonical mantissa exponent}
    (h : withSign negative x = .finite sign mantissa exponent c) :
    negative = sign ∧ ∀ b, withSign b x = .finite b mantissa exponent c := by
  cases x with
  | nan => simp [withSign] at h
  | infinite _ => simp [withSign] at h
  | finite _ m e _ =>
    obtain ⟨rfl, rfl, rfl⟩ := finite.inj h
    exact ⟨rfl, fun _ => rfl⟩

end Sign

section Texts

variable {mantissa : Nat} {exponent : Int}

lemma ofText?_exactText (c : Canonical mantissa exponent) (hm : mantissa ≠ 0) :
    ofText? (exactText mantissa exponent) = some (.finite false mantissa exponent c) := by
  have hdecimal : ∀ n k, ofText? (Text.ofNat n ++ 'e' :: Text.ofInt k) =
      some (ofDecimal false n k) := by
    intro n k
    have hvalue : Numeral.toBinary64
        { negative := false, whole := Text.ofNat n, exponent := some (Text.ofInt k) } =
          ofDecimal false n k := by
      simp [Numeral.toBinary64, Numeral.digitsValue_ofNat, Numeral.signedValue_ofInt]
    rw [ofText?, Numeral.scan_exponent]
    exact congrArg some hvalue
  rw [exactText]
  split
  · rename_i he
    refine (hdecimal _ 0).trans (congrArg some (ofDecimal_exact false c hm ?_))
    rw [show (-exponent).toNat = 0 by omega]
    simp
  · rename_i he
    refine (hdecimal _ exponent).trans (congrArg some (ofDecimal_exact false c hm ?_))
    have hten : 10 ^ (-exponent).toNat = 5 ^ (-exponent).toNat * 2 ^ (-exponent).toNat :=
      Nat.mul_pow 5 2 _
    rw [show exponent.toNat = 0 by omega, Nat.pow_eq, pow_zero, pow_zero, mul_one, mul_one, hten,
      mul_assoc]

lemma ofText?_magnitudeText (c : Canonical mantissa exponent) :
    ofText? (magnitudeText mantissa exponent c) = some (.finite false mantissa exponent c) := by
  rw [magnitudeText]
  split
  · rename_i hm
    subst hm
    obtain rfl : exponent = -1074 := by
      rcases c with ⟨hlow, _⟩ | ⟨_, heq⟩
      · exact absurd hlow (by decide)
      · exact heq
    have hzero : ofText? "0.0" = some (zero false) := by decide
    exact hzero
  · rename_i hm
    have hfind : ∀ texts : List Text, ofText?
        ((texts.find? fun t => ofText? t = some (.finite false mantissa exponent c)).getD
          (exactText mantissa exponent)) = some (.finite false mantissa exponent c) := by
      intro texts
      cases htexts : texts.find? fun t => ofText? t = some (.finite false mantissa exponent c) with
      | none => exact ofText?_exactText c hm
      | some t => exact of_decide_eq_true (List.find?_some (p := fun t =>
          decide (ofText? t = some (.finite false mantissa exponent c))) htexts)
    exact hfind _

lemma scan_magnitudeText (negative : Bool) (c : Canonical mantissa exponent) :
    ∃ n, Numeral.scan ((if negative then ['-'] else []) ++ magnitudeText mantissa exponent c) =
        some (n, []) ∧ n.isFloat = true ∧
      n.toBinary64 = .finite negative mantissa exponent c := by
  have hread := ofText?_magnitudeText c
  generalize magnitudeText mantissa exponent c = t at hread
  rw [ofText?] at hread
  split at hread
  · rename_i n hscan
    split at hread
    · rename_i hfloat
      have hvalue := Option.some.inj hread
      rw [Numeral.toBinary64, ofDecimal_eq_withSign] at hvalue
      obtain ⟨hsign, hvalues⟩ := eq_of_withSign hvalue
      have hhead : t.head? ≠ some '-' := by
        intro hminus
        obtain ⟨s, rfl⟩ := List.head?_eq_some_iff.mp hminus
        rw [Numeral.scan_minus] at hscan
        obtain ⟨w, _, hw⟩ := Option.map_eq_some_iff.mp hscan
        rw [← (Prod.mk.inj hw).1] at hsign
        exact Bool.noConfusion hsign
      rw [Numeral.scan_of_head hhead] at hscan
      obtain ⟨w, hwhole, hw⟩ := Option.map_eq_some_iff.mp hscan
      obtain ⟨rfl, hrest⟩ := Prod.mk.inj hw
      refine ⟨⟨negative, w.1, (Numeral.fraction? w.2).1,
        (Numeral.exponent? (Numeral.fraction? w.2).2).1⟩, ?_, hfloat, ?_⟩
      · cases negative with
        | false => exact (Numeral.scan_of_head hhead).trans hscan
        | true =>
          refine (Numeral.scan_minus t).trans ?_
          rw [Numeral.scanParts, hwhole, Option.map_some, hrest]
      · rw [Numeral.toBinary64, ofDecimal_eq_withSign]
        exact hvalues negative
    · simp at hread
  · simp at hread

end Texts

end SketchBuild.Binary64
