import Mathlib.Tactic.Lemma
import SketchBuild.Json.Reader
import SketchBuild.Json.Writer

namespace SketchBuild.Json

lemma hexValue?_digitChar : ∀ n < 16, hexValue? (Nat.digitChar n) = some n := by decide

lemma hex_four {n : Nat} (h : n < 0x10000) :
    Text.hex 4 n = [Nat.digitChar (n / 4096), Nat.digitChar (n / 256 % 16),
      Nat.digitChar (n / 16 % 16), Nat.digitChar (n % 16)] := by
  have hzero : Nat.digitChar 0 = '0' := rfl
  rw [Text.hex]
  by_cases h1 : n < 16
  · rw [Nat.toDigits_of_lt_base h1, Nat.div_eq_of_lt (show n < 4096 by omega),
      Nat.div_eq_of_lt (show n < 256 by omega), Nat.div_eq_of_lt h1, Nat.mod_eq_of_lt h1, hzero]
    rfl
  · rw [Nat.toDigits_of_base_le (by omega) (by omega)]
    by_cases h2 : n / 16 < 16
    · rw [Nat.toDigits_of_lt_base h2, Nat.div_eq_of_lt (show n < 4096 by omega),
        Nat.div_eq_of_lt (show n < 256 by omega), Nat.mod_eq_of_lt h2, hzero]
      rfl
    · rw [Nat.toDigits_of_base_le (by omega) (by omega), Nat.div_div_eq_div_mul]
      by_cases h3 : n / 256 < 16
      · rw [Nat.toDigits_of_lt_base h3, Nat.div_eq_of_lt (show n < 4096 by omega),
          Nat.mod_eq_of_lt h3, hzero]
        rfl
      · rw [Nat.toDigits_of_base_le (by omega) (by omega), Nat.div_div_eq_div_mul,
          Nat.toDigits_of_lt_base (by omega)]
        rfl

lemma unit?_digits {n : Nat} (h : n < 0x10000) :
    unit? (Nat.digitChar (n / 4096)) (Nat.digitChar (n / 256 % 16)) (Nat.digitChar (n / 16 % 16))
      (Nat.digitChar (n % 16)) = some n := by
  have hvalue : ((n / 4096 * 16 + n / 256 % 16) * 16 + n / 16 % 16) * 16 + n % 16 = n := by omega
  rw [unit?, hexValue?_digitChar _ (by omega), hexValue?_digitChar _ (by omega),
    hexValue?_digitChar _ (by omega), hexValue?_digitChar _ (by omega)]
  simpa using hvalue

def units (c : Char) : List Nat :=
  if c.toNat < 0x10000 then [c.toNat]
  else [0xD800 + (c.toNat - 0x10000) / 0x400, 0xDC00 + (c.toNat - 0x10000) % 0x400]

lemma toNat_lt (c : Char) : c.toNat < 0xD800 ∨ 0xDFFF < c.toNat ∧ c.toNat < 0x110000 := c.valid

lemma joinPairs_units (c : Char) (ns : List Nat) :
    joinPairs (units c ++ ns) = c :: joinPairs ns := by
  have hc := toNat_lt c
  rw [units]
  split
  · rename_i h
    have hhigh : isHighSurrogate c.toNat = false := by
      simp only [isHighSurrogate, Bool.and_eq_false_iff, decide_eq_false_iff_not]
      omega
    have hlow : isLowSurrogate c.toNat = false := by
      simp only [isLowSurrogate, Bool.and_eq_false_iff, decide_eq_false_iff_not]
      omega
    have hpoint : pointChar c.toNat = c := by
      simp [pointChar, hhigh, hlow, Char.ofNat_toNat]
    cases ns with
    | nil => simp [joinPairs, hpoint]
    | cons m ns => simp [joinPairs, hhigh, hpoint]
  · rename_i h
    have hhigh : isHighSurrogate (0xD800 + (c.toNat - 0x10000) / 0x400) = true := by
      simp only [isHighSurrogate, Bool.and_eq_true, decide_eq_true_eq]
      omega
    have hlow : isLowSurrogate (0xDC00 + (c.toNat - 0x10000) % 0x400) = true := by
      simp only [isLowSurrogate, Bool.and_eq_true, decide_eq_true_eq]
      omega
    have hvalue : 0x10000 + (0xD800 + (c.toNat - 0x10000) / 0x400 - 0xD800) * 0x400 +
        (0xDC00 + (c.toNat - 0x10000) % 0x400 - 0xDC00) = c.toNat := by omega
    rw [List.cons_append, List.singleton_append, joinPairs, hhigh, hlow, hvalue, Char.ofNat_toNat]
    rfl

lemma joinPairs_flatMap (s : Text) : joinPairs (s.flatMap units) = s := by
  induction s with
  | nil => rfl
  | cons c s ih => rw [List.flatMap_cons, joinPairs_units, ih]

lemma readPoints_unitEscape (opening : Text) {n : Nat} (h : n < 0x10000) {rest : Text}
    (hrest : rest ≠ []) :
    readPoints opening (unitEscape n ++ rest) = consPoint n (readPoints opening rest) := by
  cases rest with
  | nil => exact (hrest rfl).elim
  | cons e s =>
    rw [unitEscape, hex_four h]
    simp only [List.cons_append, List.nil_append]
    rw [readPoints, unit?_digits h]

lemma readPoints_bare (opening : Text) {c : Char} (hquote : c ≠ '"') (hslash : c ≠ '\\')
    (hc : 0x20 ≤ c.toNat) (rest : Text) :
    readPoints opening (c :: rest) = consPoint c.toNat (readPoints opening rest) := by
  rw [readPoints.eq_7 opening c rest hquote (fun _ _ _ _ _ _ h _ => hslash h)
    (fun _ h _ => hslash h) (fun h _ => hslash h) (fun _ _ h _ => hslash h),
    if_neg (Nat.not_lt.mpr hc)]

lemma readPoints_short (opening : Text) {e c : Char} (hu : e ≠ 'u') (he : escaped? e = some c)
    (rest : Text) :
    readPoints opening ('\\' :: e :: rest) = consPoint c.toNat (readPoints opening rest) := by
  rw [readPoints.eq_def]
  split
  any_goals simp_all
  rename_i hnil hcons heq
  exact (hcons e rest heq.1.symm heq.2.symm).elim

lemma units_short {c : Char} (h : c.toNat < 0x80) : units c = [c.toNat] := by
  rw [units, if_pos (by omega)]

lemma readPoints_escape (opening : Text) (c : Char) {rest : Text} (hrest : rest ≠ []) :
    readPoints opening (escape c ++ rest) = (units c).foldr consPoint (readPoints opening rest) := by
  have hc := toNat_lt c
  have hshort : ∀ e : Char, e ≠ 'u' → escaped? e = some c → c.toNat < 0x80 →
      readPoints opening (['\\', e] ++ rest) = (units c).foldr consPoint (readPoints opening rest) := by
    intro e hu he hlt
    rw [units_short hlt]
    exact readPoints_short opening hu he rest
  unfold escape
  split
  · exact hshort '"' (by decide) rfl (by decide)
  · exact hshort '\\' (by decide) rfl (by decide)
  · exact hshort 'n' (by decide) rfl (by decide)
  · exact hshort 'r' (by decide) rfl (by decide)
  · exact hshort 't' (by decide) rfl (by decide)
  · exact hshort 'b' (by decide) rfl (by decide)
  · exact hshort 'f' (by decide) rfl (by decide)
  · rename_i hquote hslash _ _ _ _ _
    dsimp only
    split
    · rename_i h
      simp only [Bool.and_eq_true, decide_eq_true_eq] at h
      rw [units_short (by omega)]
      exact readPoints_bare opening (by simpa using hquote) (by simpa using hslash) h.1 rest
    · split
      · rename_i h
        rw [readPoints_unitEscape opening h hrest, units, if_pos h, List.foldr_cons, List.foldr_nil]
      · rename_i h
        have hne : unitEscape (0xDC00 + (c.toNat - 0x10000) % 0x400) ++ rest ≠ [] :=
          List.cons_ne_nil _ _
        rw [List.append_assoc, readPoints_unitEscape opening (by omega) hne,
          readPoints_unitEscape opening (by omega) hrest, units, if_neg h, List.foldr_cons,
          List.foldr_cons, List.foldr_nil]

lemma readPoints_flatMap (opening s rest : Text) :
    readPoints opening (s.flatMap escape ++ '"' :: rest) = .ok (s.flatMap units, rest) := by
  have hcons : ∀ (ns ms : List Nat) (r : Text),
      ns.foldr consPoint (.ok (ms, r)) = .ok (ns ++ ms, r) := by
    intro ns ms r
    induction ns with
    | nil => rfl
    | cons n ns ih => rw [List.foldr_cons, ih, consPoint, List.cons_append]
  induction s with
  | nil => rfl
  | cons c s ih =>
    rw [List.flatMap_cons, List.append_assoc, readPoints_escape opening c (by simp), ih, hcons,
      List.flatMap_cons]

lemma readString_flatMap (opening s rest : Text) :
    readString opening (s.flatMap escape ++ '"' :: rest) = .ok (s, rest) := by
  rw [readString, readPoints_flatMap]
  dsimp only
  rw [joinPairs_flatMap]

end SketchBuild.Json
