import SketchBuild.Json.Reader
import SketchBuild.Json.Writer
import SketchBuild.Proofs.Decimal.Exact

namespace SketchBuild.Json

open SketchBuild.Numeral (IsOutside)

section Numbers

lemma word?_of_scan {s : Text} {x : Numeral × Text} (h : Numeral.scan s = some x) :
    word? s = none := by
  obtain ⟨c, t, hc, rfl | rfl⟩ := Numeral.scan_head h
  · have hne : ∀ a : Char, a.isDigit = false → a ≠ c := by
      rintro a ha rfl
      rw [hc] at ha
      exact Bool.noConfusion ha
    simp [word?, words, Text.dropPrefix?, hne 'n' rfl, hne 't' rfl, hne 'f' rfl, hne 'N' rfl,
      hne 'I' rfl, hne '-' rfl]
  · have hne : 'I' ≠ c := by
      rintro rfl
      simp at hc
    simp [word?, words, Text.dropPrefix?, hne]

lemma readValue_of_scan {s : Text} {x : Numeral × Text} (h : Numeral.scan s = some x) (n : Nat) :
    readValue (n + 1) s = readNumber s := by
  have hhead : ∀ a : Char, a.isDigit = false → a ≠ '-' → ∀ t, s ≠ a :: t := by
    rintro a ha hminus t rfl
    obtain ⟨c, u, hc, hs | hs⟩ := Numeral.scan_head h
    · rw [(List.cons.inj hs).1, hc] at ha
      exact Bool.noConfusion ha
    · exact hminus (List.cons.inj hs).1
  rw [readValue.eq_5 s n (hhead '"' rfl (by decide)) (hhead '[' rfl (by decide))
    (hhead '\x7b' rfl (by decide)), word?_of_scan h]

variable {rest : Text} (h : IsOutside rest)

include h

lemma readValue_ofInt {k : Int} (hk : (Text.ofNat k.natAbs).length ≤ Text.maxDigits) (n : Nat) :
    readValue (n + 1) (Text.ofInt k ++ rest) = .ok (.int k, rest) := by
  have hscan := h.scan_append (Text.ofInt k)
  rw [Numeral.scan_ofInt, Option.map_some, List.nil_append] at hscan
  rw [readValue_of_scan hscan, readNumber, hscan]
  dsimp only
  rw [if_neg (by simp [Numeral.isFloat]), if_neg (not_lt.mpr hk), Numeral.toInt_ofInt]

lemma readValue_floatText (x : Binary64) (n : Nat) :
    readValue (n + 1) (floatText x ++ rest) = .ok (.float x, rest) := by
  cases x with
  | nan => rfl
  | infinite negative => cases negative <;> rfl
  | finite negative mantissa exponent canonical =>
    obtain ⟨value, hscan, hfloat, hvalue⟩ := Binary64.scan_magnitudeText negative canonical
    have happend := h.scan_append
      ((if negative then ['-'] else []) ++ Binary64.magnitudeText mantissa exponent canonical)
    rw [hscan, Option.map_some, List.nil_append] at happend
    rw [floatText, Binary64.text, readValue_of_scan happend, readNumber, happend]
    dsimp only
    rw [if_pos hfloat, hvalue]

end Numbers

end SketchBuild.Json
