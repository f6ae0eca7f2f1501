import Mathlib.Data.List.Basic
import Mathlib.Data.List.Induction
import Mathlib.Data.List.TakeWhile
import SketchBuild.Decimal.Numeral
import SketchBuild.Proofs.Text.Digit

namespace SketchBuild.Numeral

def isMark (c : Char) : Bool :=
  c.isDigit || c = '.' || c = 'e' || c = 'E' || c = '+' || c = '-'

lemma isMark_of_isDigit {c : Char} (h : c.isDigit = true) : isMark c = true := by simp [isMark, h]

def IsOutside (rest : Text) : Prop := ∀ c ∈ rest.head?, isMark c = false

lemma isOutside_cons {c : Char} (h : isMark c = false) (s : Text) : IsOutside (c :: s) := by
  intro a ha
  obtain rfl : c = a := by simpa using ha
  exact h

lemma IsOutside.of_cons {c : Char} {s : Text} (h : IsOutside (c :: s)) :
    c.isDigit = false ∧ c ≠ '.' ∧ c ≠ 'e' ∧ c ≠ 'E' ∧ c ≠ '+' ∧ c ≠ '-' := by
  simpa [isMark, and_assoc] using h c rfl

section Append

variable {rest : Text}

lemma IsOutside.no_digit (h : IsOutside rest) : ∀ c ∈ rest.head?, c.isDigit = false := by
  intro c hc
  obtain ⟨s, rfl⟩ := List.head?_eq_some_iff.mp hc
  exact h.of_cons.1

lemma spanDigits_append (h : ∀ c ∈ rest.head?, c.isDigit = false) (s : Text) :
    spanDigits (s ++ rest) = ((spanDigits s).1, (spanDigits s).2 ++ rest) := by
  induction s with
  | nil =>
    cases rest with
    | nil => rfl
    | cons c rest => simp [spanDigits, h c rfl]
  | cons c s ih =>
    simp only [spanDigits, Prod.mk.injEq] at ih
    cases hc : c.isDigit <;> simp [spanDigits, hc, ih]

lemma whole?_append (h : ∀ c ∈ rest.head?, c.isDigit = false) (s : Text) :
    whole? (s ++ rest) = (whole? s).map fun x => (x.1, x.2 ++ rest) := by
  cases s with
  | nil =>
    cases rest with
    | nil => rfl
    | cons c rest =>
      have hdigit := h c rfl
      have hzero : c ≠ '0' := by
        rintro rfl
        simp at hdigit
      rw [List.nil_append, whole?.eq_2 c rest hzero, hdigit]
      rfl
  | cons c s =>
    by_cases hzero : c = '0'
    · rw [hzero]
      rfl
    · rw [List.cons_append, whole?.eq_2 c _ hzero, whole?.eq_2 c _ hzero, spanDigits_append h]
      cases c.isDigit <;> rfl

lemma IsOutside.fraction?_append (h : IsOutside rest) (s : Text) :
    fraction? (s ++ rest) = ((fraction? s).1, (fraction? s).2 ++ rest) := by
  cases s with
  | nil =>
    cases rest with
    | nil => rfl
    | cons c rest =>
      obtain ⟨_, hdot, _⟩ := h.of_cons
      rw [List.nil_append, fraction?.eq_2 (c :: rest) (by simpa using hdot)]
      rfl
  | cons c s =>
    by_cases hdot : c = '.'
    · rw [hdot, List.cons_append, fraction?, fraction?, spanDigits_append h.no_digit]
      cases hd : spanDigits s with
      | mk digits left => cases digits <;> rfl
    · rw [fraction?.eq_2 (c :: s) (by simpa using hdot),
        fraction?.eq_2 (c :: s ++ rest) (by simpa using hdot)]

lemma IsOutside.sign?_append (h : IsOutside rest) (s : Text) :
    sign? (s ++ rest) = ((sign? s).1, (sign? s).2 ++ rest) := by
  cases s with
  | nil =>
    cases rest with
    | nil => rfl
    | cons c rest =>
      obtain ⟨_, _, _, _, hplus, hminus⟩ := h.of_cons
      rw [List.nil_append, sign?.eq_3 (c :: rest) (by simpa using hminus) (by simpa using hplus)]
      rfl
  | cons c s =>
    by_cases hminus : c = '-'
    · rw [hminus]
      rfl
    · by_cases hplus : c = '+'
      · rw [hplus]
        rfl
      · rw [sign?.eq_3 (c :: s) (by simpa using hminus) (by simpa using hplus),
          sign?.eq_3 (c :: s ++ rest) (by simpa using hminus) (by simpa using hplus)]

lemma IsOutside.exponent?_append (h : IsOutside rest) (s : Text) :
    exponent? (s ++ rest) = ((exponent? s).1, (exponent? s).2 ++ rest) := by
  cases s with
  | nil =>
    cases rest with
    | nil => rfl
    | cons c rest =>
      obtain ⟨_, _, he, hcapital, _⟩ := h.of_cons
      rw [List.nil_append, exponent?.eq_2, if_neg (by simp [he, hcapital])]
      rfl
  | cons c s =>
    rw [List.cons_append, exponent?, exponent?, h.sign?_append, spanDigits_append h.no_digit]
    split
    · cases hd : spanDigits (sign? s).2 with
      | mk digits left => cases digits <;> rfl
    · rfl

def scanParts (negative : Bool) (s : Text) : Option (Numeral × Text) :=
  (whole? s).map fun w =>
    ({ negative, whole := w.1, fraction := (fraction? w.2).1,
        exponent := (exponent? (fraction? w.2).2).1 },
      (exponent? (fraction? w.2).2).2)

lemma scan_minus (s : Text) : scan ('-' :: s) = scanParts true s := by
  rw [scan, scanParts]
  cases whole? s <;> rfl

lemma scan_of_head {s : Text} (h : s.head? ≠ some '-') : scan s = scanParts false s := by
  cases s with
  | nil => rfl
  | cons c s =>
    have hc : c ≠ '-' := by simpa using h
    rw [scan, scanParts]
    · cases whole? (c :: s) <;> rfl
    · intro t ht
      exact hc (List.cons.inj ht).1

lemma IsOutside.scanParts_append (h : IsOutside rest) (negative : Bool) (s : Text) :
    scanParts negative (s ++ rest) = (scanParts negative s).map fun x => (x.1, x.2 ++ rest) := by
  rw [scanParts, scanParts, whole?_append h.no_digit, Option.map_map, Option.map_map]
  congr 1
  funext w
  simp only [Function.comp_apply, h.fraction?_append, h.exponent?_append]

lemma IsOutside.scan_append (h : IsOutside rest) (s : Text) :
    scan (s ++ rest) = (scan s).map fun x => (x.1, x.2 ++ rest) := by
  by_cases hs : s.head? = some '-'
  · obtain ⟨s, rfl⟩ := List.head?_eq_some_iff.mp hs
    rw [List.cons_append, scan_minus, scan_minus, h.scanParts_append]
  · rw [scan_of_head hs, scan_of_head, h.scanParts_append]
    cases s with
    | nil =>
      intro hrest
      exact absurd (h '-' hrest) (by decide)
    | cons c s => simpa using hs

end Append

section Parts

def Passes (s rest : Text) : Prop := ∃ p, s = p ++ rest ∧ ∀ c ∈ p, isMark c = true

lemma Passes.refl (s : Text) : Passes s s := ⟨[], rfl, by simp⟩

lemma Passes.trans {s t u : Text} (hst : Passes s t) (htu : Passes t u) : Passes s u := by
  obtain ⟨p, rfl, hp⟩ := hst
  obtain ⟨q, rfl, hq⟩ := htu
  refine ⟨p ++ q, (List.append_assoc p q u).symm, ?_⟩
  exact fun c hc => (List.mem_append.mp hc).elim (hp c) (hq c)

lemma Passes.cons {c : Char} {s t : Text} (hc : isMark c = true) (h : Passes s t) :
    Passes (c :: s) t := by
  obtain ⟨p, rfl, hp⟩ := h
  exact ⟨c :: p, rfl, List.forall_mem_cons.mpr ⟨hc, hp⟩⟩

lemma Passes.suffix {s t : Text} (h : Passes s t) : t <:+ s := by
  obtain ⟨p, rfl, _⟩ := h
  exact List.suffix_append p t

lemma passes_append {w : Text} (h : ∀ c ∈ w, c.isDigit = true) (s : Text) : Passes (w ++ s) s :=
  ⟨w, rfl, fun c hc => isMark_of_isDigit (h c hc)⟩

lemma spanDigits_passes (s : Text) : Passes s (spanDigits s).2 :=
  ⟨(spanDigits s).1, List.takeWhile_append_dropWhile.symm,
    fun _ hc => isMark_of_isDigit (List.mem_takeWhile_imp hc)⟩

lemma whole?_digits {s w rest : Text} (h : whole? s = some (w, rest)) :
    s = w ++ rest ∧ w ≠ [] ∧ ∀ c ∈ w, c.isDigit = true := by
  unfold whole? at h
  split at h
  · obtain ⟨rfl, rfl⟩ := Prod.mk.inj (Option.some.inj h)
    exact ⟨rfl, by simp, by simp⟩
  · split at h
    · rename_i c s _ hc
      obtain ⟨rfl, rfl⟩ := Prod.mk.inj (Option.some.inj h)
      refine ⟨by simp [spanDigits], by simp, ?_⟩
      intro a ha
      rcases List.mem_cons.mp ha with rfl | ha
      · exact hc
      · exact List.mem_takeWhile_imp ha
    · simp at h
  · simp at h

lemma fraction?_passes (s : Text) : Passes s (fraction? s).2 := by
  unfold fraction?
  split
  · rename_i s
    have hspan : Passes ('.' :: s) (spanDigits s).2 := (spanDigits_passes s).cons rfl
    split
    · exact Passes.refl _
    · rename_i heq
      rwa [heq] at hspan
  · exact Passes.refl _

lemma sign?_passes (s : Text) : Passes s (sign? s).2 := by
  unfold sign?
  split
  · exact (Passes.refl _).cons rfl
  · exact (Passes.refl _).cons rfl
  · exact Passes.refl _

lemma exponent?_passes (s : Text) : Passes s (exponent? s).2 := by
  unfold exponent?
  split
  · exact Passes.refl _
  · rename_i c s
    split
    · rename_i hc
      have hmark : isMark c = true := by
        rcases (Bool.or_eq_true _ _).mp hc with h | h
        · rw [of_decide_eq_true h]; rfl
        · rw [of_decide_eq_true h]; rfl
      have hspan : Passes (c :: s) (spanDigits (sign? s).2).2 :=
        ((sign?_passes s).trans (spanDigits_passes _)).cons hmark
      split
      · exact Passes.refl _
      · rename_i heq
        rwa [heq] at hspan
    · exact Passes.refl _

lemma scan_head {s : Text} {x : Numeral × Text} (h : scan s = some x) :
    ∃ c t, c.isDigit = true ∧ (s = c :: t ∨ s = '-' :: c :: t) := by
  have hparts : ∀ negative (s : Text), scanParts negative s = some x →
      ∃ c t, c.isDigit = true ∧ s = c :: t := by
    intro negative s hs
    obtain ⟨⟨w, left⟩, hw, _⟩ := Option.map_eq_some_iff.mp hs
    obtain ⟨rfl, hne, hdigits⟩ := whole?_digits hw
    obtain ⟨c, w, rfl⟩ := List.exists_cons_of_ne_nil hne
    exact ⟨c, w ++ left, hdigits c (by simp), rfl⟩
  by_cases hs : s.head? = some '-'
  · obtain ⟨s, rfl⟩ := List.head?_eq_some_iff.mp hs
    rw [scan_minus] at h
    obtain ⟨c, t, hc, rfl⟩ := hparts true s h
    exact ⟨c, t, hc, Or.inr rfl⟩
  · rw [scan_of_head hs] at h
    obtain ⟨c, t, hc, rfl⟩ := hparts false s h
    exact ⟨c, t, hc, Or.inl rfl⟩

lemma scan_whole {s rest : Text} {n : Numeral} (h : scan s = some (n, rest)) :
    Passes s rest ∧ n.whole <:+: s ∧ ∀ c ∈ n.whole, c.isDigit = true := by
  have hparts : ∀ negative (s : Text), scanParts negative s = some (n, rest) →
      Passes s rest ∧ n.whole <:+: s ∧ ∀ c ∈ n.whole, c.isDigit = true := by
    intro negative s hs
    obtain ⟨⟨w, left⟩, hw, hn⟩ := Option.map_eq_some_iff.mp hs
    obtain ⟨rfl, rfl⟩ := Prod.mk.inj hn
    obtain ⟨rfl, _, hdigits⟩ := whole?_digits hw
    refine ⟨?_, List.infix_append' [] w left, hdigits⟩
    exact ((passes_append hdigits left).trans (fraction?_passes left)).trans (exponent?_passes _)
  by_cases hs : s.head? = some '-'
  · obtain ⟨s, rfl⟩ := List.head?_eq_some_iff.mp hs
    rw [scan_minus] at h
    obtain ⟨hpasses, hwhole, hdigits⟩ := hparts true s h
    exact ⟨hpasses.cons rfl, hwhole.trans (List.suffix_cons _ s).isInfix, hdigits⟩
  · rw [scan_of_head hs] at h
    exact hparts false s h

end Parts

section Written

lemma isDigit_of_mem_ofNat {n : Nat} {c : Char} (h : c ∈ Text.ofNat n) : c.isDigit = true :=
  Nat.isDigit_of_mem_toDigits (by decide) (by decide) h

lemma head?_ofNat_ne {n : Nat} {c : Char} (h : c.isDigit = false) :
    (Text.ofNat n).head? ≠ some c := by
  intro hc
  rw [isDigit_of_mem_ofNat (List.mem_of_mem_head? hc)] at h
  exact Bool.noConfusion h

lemma digitsValue_ofNat (n : Nat) : digitsValue (Text.ofNat n) = n := Nat.ofDigitChars_ten_toDigits

lemma digitsValue_lt {s : Text} (h : ∀ c ∈ s, c.isDigit = true) :
    digitsValue s < 10 ^ s.length := by
  induction s using List.reverseRecOn with
  | nil => simp [digitsValue]
  | append_singleton s c ih =>
    have hs := ih fun a ha => h a (List.mem_append_left _ ha)
    have hc : c.toNat - '0'.toNat < 10 := by
      have hdigit := Char.isDigit_iff_toNat.mp (h c (by simp))
      have hzero : '0'.toNat = 48 := rfl
      have hnine : '9'.toNat = 57 := rfl
      omega
    have hvalue : digitsValue (s ++ [c]) = 10 * digitsValue s + (c.toNat - '0'.toNat) := by
      rw [digitsValue, List.foldl_append]
      rfl
    rw [hvalue, List.length_append, List.length_singleton, Nat.pow_succ]
    omega

lemma signedValue_ofInt (k : Int) : signedValue (Text.ofInt k) = k := by
  cases k with
  | ofNat n =>
    rw [Text.ofInt, signedValue.eq_3, digitsValue_ofNat, Int.ofNat_eq_natCast]
    · intro digits h
      exact head?_ofNat_ne rfl (by rw [h]; rfl)
    · intro digits h
      exact head?_ofNat_ne rfl (by rw [h]; rfl)
  | negSucc n => rw [Text.ofInt, signedValue, digitsValue_ofNat, Int.negSucc_eq]; rfl

lemma head?_ofNat_ne_zero {n : Nat} (h : n ≠ 0) : (Text.ofNat n).head? ≠ some '0' := by
  rw [Text.ofNat]
  induction n using Nat.strongRecOn with
  | ind n ih =>
    by_cases hn : n < 10
    · rw [Nat.toDigits_of_lt_base hn, List.head?_cons]
      have hdigits : ∀ k < 10, k ≠ 0 → some k.digitChar ≠ some '0' := by decide
      exact hdigits n hn h
    · rw [Nat.toDigits_of_base_le (by decide) (by omega),
        List.head?_append_of_ne_nil _ Nat.toDigits_ne_nil]
      exact ih (n / 10) (by omega) (by omega)

lemma spanDigits_of_all {s : Text} (h : ∀ c ∈ s, c.isDigit = true) : spanDigits s = (s, []) := by
  rw [spanDigits, List.takeWhile_eq_self_iff.mpr h, List.dropWhile_eq_nil_iff.mpr h]

lemma spanDigits_ofNat (n : Nat) : spanDigits (Text.ofNat n) = (Text.ofNat n, []) :=
  spanDigits_of_all fun _ => isDigit_of_mem_ofNat

lemma whole?_of_digits {s : Text} (hne : s ≠ []) (hzero : s.head? ≠ some '0')
    (h : ∀ c ∈ s, c.isDigit = true) : whole? s = some (s, []) := by
  obtain ⟨c, s, rfl⟩ := List.exists_cons_of_ne_nil hne
  rw [whole?.eq_2 c s (by simpa using hzero), if_pos (h c (by simp)),
    spanDigits_of_all fun a ha => h a (List.mem_cons_of_mem c ha)]

lemma whole?_ofNat (n : Nat) : whole? (Text.ofNat n) = some (Text.ofNat n, []) := by
  by_cases hn : n = 0
  · rw [hn]
    rfl
  · exact whole?_of_digits (Text.ofNat_ne_nil n) (head?_ofNat_ne_zero hn)
      fun _ => isDigit_of_mem_ofNat

lemma scan_of_digits {s : Text} (hne : s ≠ []) (hzero : s.head? ≠ some '0')
    (h : ∀ c ∈ s, c.isDigit = true) : scan s = some ({ negative := false, whole := s }, []) := by
  have hminus : s.head? ≠ some '-' := fun hhead =>
    absurd (h '-' (List.mem_of_mem_head? hhead)) (by decide)
  rw [scan_of_head hminus, scanParts, whole?_of_digits hne hzero h]
  rfl

lemma scan_ofInt (k : Int) :
    scan (Text.ofInt k) = some ({ negative := k < 0, whole := Text.ofNat k.natAbs }, []) := by
  cases k with
  | ofNat n =>
    rw [Text.ofInt, scan_of_head (head?_ofNat_ne rfl), scanParts, whole?_ofNat]
    rfl
  | negSucc n =>
    rw [Text.ofInt, scan_minus, scanParts, whole?_ofNat, decide_eq_true (Int.negSucc_lt_zero n)]
    rfl

lemma toInt_ofInt (k : Int) :
    toInt { negative := k < 0, whole := Text.ofNat k.natAbs } = k := by
  rw [toInt]
  dsimp only
  rw [digitsValue_ofNat]
  by_cases hk : k < 0
  · rw [if_pos (decide_eq_true hk)]
    omega
  · rw [if_neg (by simpa using hk)]
    omega

lemma sign?_ofNat (n : Nat) : sign? (Text.ofNat n) = ([], Text.ofNat n) := by
  apply sign?.eq_3
  all_goals
    intro s h
    exact head?_ofNat_ne rfl (by rw [h]; rfl)

lemma exponent?_ofInt (k : Int) : exponent? ('e' :: Text.ofInt k) = (some (Text.ofInt k), []) := by
  have hsigned : ∃ sign n, sign? (Text.ofInt k) = (sign, Text.ofNat n) ∧
      Text.ofInt k = sign ++ Text.ofNat n := by
    cases k with
    | ofNat n => exact ⟨[], n, sign?_ofNat n, rfl⟩
    | negSucc n => exact ⟨['-'], n + 1, rfl, rfl⟩
  obtain ⟨sign, n, hsign, htext⟩ := hsigned
  rw [exponent?, if_pos (by simp), hsign, spanDigits_ofNat, htext]
  cases hs : Text.ofNat n with
  | nil => exact (Text.ofNat_ne_nil n hs).elim
  | cons c s => rfl

lemma scan_exponent (n : Nat) (k : Int) :
    scan (Text.ofNat n ++ 'e' :: Text.ofInt k) =
      some ({ negative := false, whole := Text.ofNat n, exponent := some (Text.ofInt k) }, []) := by
  have hhead : (Text.ofNat n ++ 'e' :: Text.ofInt k).head? ≠ some '-' := by
    rw [List.head?_append_of_ne_nil _ (Text.ofNat_ne_nil n)]
    exact head?_ofNat_ne rfl
  have hfraction : fraction? ('e' :: Text.ofInt k) = (none, 'e' :: Text.ofInt k) := rfl
  have hwhole : whole? (Text.ofNat n ++ 'e' :: Text.ofInt k) =
      some (Text.ofNat n, 'e' :: Text.ofInt k) := by
    rw [whole?_append (by simp) (Text.ofNat n), whole?_ofNat, Option.map_some, List.nil_append]
  rw [scan_of_head hhead, scanParts, hwhole, Option.map_some, hfraction, exponent?_ofInt]

end Written

end SketchBuild.Numeral
