import SketchBuild.Proofs.Json.RoundTrip
import SketchBuild.Proofs.Text.Strip

namespace SketchBuild.Json

def HasRun (n : Nat) (s : Text) : Prop :=
  ∃ digits, digits <:+: s ∧ digits.length = n ∧ ∀ c ∈ digits, c.isDigit = true

def Stop.IsJust (s : Text) : Stop → Prop
  | .fault _ _ => True
  | .oversized n => Text.maxDigits < n ∧ HasRun n s

/-- Whether a result meets a condition and leaves the end of the text that was read. -/
def IsSound {α : Type} (P : α → Prop) (s : Text) : Parsed α → Prop
  | .ok (a, rest) => P a ∧ rest <:+ s
  | .error e => e.IsJust s

section Sound

variable {α β : Type} {P Q : α → Prop} {s t : Text}

lemma HasRun.mono {n : Nat} (h : HasRun n s) (hs : s <:+: t) : HasRun n t := by
  obtain ⟨digits, hdigits, hlength, hall⟩ := h
  exact ⟨digits, hdigits.trans hs, hlength, hall⟩

lemma Stop.IsJust.of_suffix {e : Stop} (h : e.IsJust s) (hs : s <:+ t) : e.IsJust t := by
  cases e with
  | fault _ _ => trivial
  | oversized n => exact ⟨h.1, h.2.mono hs.isInfix⟩

lemma IsSound.of_suffix {r : Parsed α} (h : IsSound P s r) (hs : s <:+ t) : IsSound P t r := by
  cases r with
  | error e => exact Stop.IsJust.of_suffix h hs
  | ok x => exact ⟨h.1, h.2.trans hs⟩

lemma isSound_fault (kind : FaultKind) (rest : Text) : IsSound P s (fault kind rest) := trivial

lemma skipSpace_suffix (s : Text) : skipSpace s <:+ s := List.dropWhile_suffix isSpace

lemma suffix_of_skipSpace {c : Char} (h : skipSpace s = c :: t) : t <:+ s :=
  (List.suffix_cons c t).trans (h ▸ skipSpace_suffix s)

end Sound

section Strings

variable {s t : Text}

lemma isSound_consPoint (n : Nat) {r : Parsed (List Nat)} (h : IsSound (fun _ => True) s r)
    (hs : s <:+ t) : IsSound (fun _ => True) t (consPoint n r) := by
  have ht := h.of_suffix hs
  cases r with
  | error e => exact ht
  | ok x => exact ht

lemma readPoints_isSound (opening s : Text) : IsSound (fun _ => True) s (readPoints opening s) := by
  fun_induction readPoints opening s with
  | case1 => trivial
  | case2 s => exact ⟨trivial, List.suffix_cons _ s⟩
  | case3 => trivial
  | case4 a b c d e s n _ ih =>
    exact isSound_consPoint n ih (List.suffix_append ['\\', 'u', a, b, c, d] _)
  | case5 => trivial
  | case6 => trivial
  | case7 c s _ _ a _ ih => exact isSound_consPoint _ ih (List.suffix_append ['\\', c] s)
  | case8 => trivial
  | case9 => trivial
  | case10 => exact isSound_consPoint _ (by assumption) (List.suffix_cons _ _)

lemma readString_isSound (opening s : Text) : IsSound (fun _ => True) s (readString opening s) := by
  have h := readPoints_isSound opening s
  rw [readString]
  cases hr : readPoints opening s with
  | error e => rwa [hr] at h
  | ok x => rwa [hr] at h

end Strings

lemma length_ofNat_natAbs_le {n : Numeral} (h : ∀ c ∈ n.whole, c.isDigit = true) {m : Nat}
    (hm : 0 < m) (hlength : n.whole.length ≤ m) : (Text.ofNat n.toInt.natAbs).length ≤ m := by
  have habs : n.toInt.natAbs = Numeral.digitsValue n.whole := by
    rw [Numeral.toInt]
    split
    · rw [Int.natAbs_neg, Int.natAbs_natCast]
    · rw [Int.natAbs_natCast]
  rw [habs]
  exact Text.length_ofNat_le hm
    ((Numeral.digitsValue_lt h).trans_le (Nat.pow_le_pow_right (by decide) hlength))

lemma readNumber_isSound (s : Text) : IsSound IsDocument s (readNumber s) := by
  rw [readNumber]
  split
  · exact isSound_fault _ _
  · rename_i n rest hscan
    obtain ⟨hpasses, hrun, hdigits⟩ := Numeral.scan_whole hscan
    split
    · exact ⟨IsDocument.float _, hpasses.suffix⟩
    · split
      · rename_i hlarge
        exact ⟨hlarge, n.whole, hrun, rfl, hdigits⟩
      · rename_i hsmall
        refine ⟨IsDocument.int _ ?_, hpasses.suffix⟩
        exact length_ofNat_natAbs_le hdigits (by decide) (not_lt.mp hsmall)

lemma isDocument_of_mem_words : ∀ w ∈ words, IsDocument w.2 := by
  simp only [words, List.forall_mem_cons, List.not_mem_nil, false_imp_iff, implies_true, and_true]
  exact ⟨.null, .bool true, .bool false, .float _, .float _, .float _⟩

lemma word?_isSound {s : Text} {x : Json × Text} (h : word? s = some x) :
    IsDocument x.1 ∧ x.2 <:+ s := by
  obtain ⟨w, hw, hx⟩ := List.exists_of_findSome?_eq_some h
  obtain ⟨rest, hrest, rfl⟩ := Option.map_eq_some_iff.mp hx
  rw [Text.dropPrefix?_eq_some hrest]
  exact ⟨isDocument_of_mem_words w hw, List.suffix_append w.1 rest⟩

section Values

structure IsSoundWithin (n : Nat) : Prop where
  value : ∀ s, IsSound IsDocument s (readValue n s)
  items : ∀ s, IsSound (∀ v ∈ ·, IsDocument v) s (readItems n s)
  members : ∀ s, IsSound (∀ m ∈ ·, IsDocument m.2) s (readMembers n s)

variable {n : Nat} (h : IsSoundWithin n)

include h

lemma readValue_isSound_step (s : Text) : IsSound IsDocument s (readValue (n + 1) s) := by
  rw [readValue.eq_def]
  dsimp only
  split
  · rename_i r
    have hstring := (readString_isSound ('"' :: r) r).of_suffix (List.suffix_cons '"' r)
    split
    · rename_i t rest heq
      rw [heq] at hstring
      exact ⟨IsDocument.str t, hstring.2⟩
    · rename_i e heq
      rwa [heq] at hstring
  · rename_i r
    split
    · rename_i rest hrest
      exact ⟨IsDocument.arr [] (by simp), (suffix_of_skipSpace hrest).trans (List.suffix_cons _ r)⟩
    · have hitems := (h.items (skipSpace r)).of_suffix
        ((skipSpace_suffix r).trans (List.suffix_cons '[' r))
      split
      · rename_i vs rest heq
        rw [heq] at hitems
        exact ⟨IsDocument.arr vs hitems.1, hitems.2⟩
      · rename_i e heq
        rwa [heq] at hitems
  · rename_i r
    split
    · rename_i rest hrest
      exact ⟨IsDocument.obj [] List.nodup_nil (by simp),
        (suffix_of_skipSpace hrest).trans (List.suffix_cons _ r)⟩
    · have hmembers := (h.members (skipSpace r)).of_suffix
        ((skipSpace_suffix r).trans (List.suffix_cons '\x7b' r))
      split
      · rename_i ms rest heq
        rw [heq] at hmembers
        exact ⟨.obj _ (Table.nodup_keys_ofList _) (Table.forall_ofList hmembers.1), hmembers.2⟩
      · rename_i e heq
        rwa [heq] at hmembers
  · split
    · rename_i x hx
      exact word?_isSound hx
    · exact readNumber_isSound s

lemma readItems_isSound_step (s : Text) :
    IsSound (∀ v ∈ ·, IsDocument v) s (readItems (n + 1) s) := by
  have hvalue := h.value s
  rw [readItems]
  split
  · rename_i e heq
    rwa [heq] at hvalue
  · rename_i v r heq
    rw [heq] at hvalue
    obtain ⟨hv, hr⟩ := hvalue
    split
    · rename_i rest hrest
      exact ⟨by simpa using hv, (suffix_of_skipSpace hrest).trans hr⟩
    · rename_i t ht
      have hitems := (h.items (skipSpace t)).of_suffix
        ((skipSpace_suffix t).trans ((suffix_of_skipSpace ht).trans hr))
      split
      · rename_i vs rest hvs
        rw [hvs] at hitems
        exact ⟨List.forall_mem_cons.mpr ⟨hv, hitems.1⟩, hitems.2⟩
      · rename_i e he
        rwa [he] at hitems
    · exact isSound_fault _ _

lemma readMembers_isSound_step (s : Text) :
    IsSound (∀ m ∈ ·, IsDocument m.2) s (readMembers (n + 1) s) := by
  rw [readMembers.eq_def]
  dsimp only
  split
  · rename_i r
    have hname := (readString_isSound ('"' :: r) r).of_suffix (List.suffix_cons '"' r)
    split
    · rename_i e heq
      rwa [heq] at hname
    · rename_i k t heq
      rw [heq] at hname
      split
      · rename_i u hu
        have hvalue := (h.value (skipSpace u)).of_suffix
          ((skipSpace_suffix u).trans ((suffix_of_skipSpace hu).trans hname.2))
        split
        · rename_i e hv
          rwa [hv] at hvalue
        · rename_i v w hv
          rw [hv] at hvalue
          split
          · rename_i rest hrest
            exact ⟨by simpa using hvalue.1, (suffix_of_skipSpace hrest).trans hvalue.2⟩
          · rename_i x hx
            have hmembers := (h.members (skipSpace x)).of_suffix
              ((skipSpace_suffix x).trans ((suffix_of_skipSpace hx).trans hvalue.2))
            split
            · rename_i ms rest hms
              rw [hms] at hmembers
              exact ⟨List.forall_mem_cons.mpr ⟨hvalue.1, hmembers.1⟩, hmembers.2⟩
            · rename_i e he
              rwa [he] at hmembers
          · exact isSound_fault _ _
      · exact isSound_fault _ _
  · exact isSound_fault _ _

end Values

lemma isSoundWithin (n : Nat) : IsSoundWithin n := by
  induction n with
  | zero => exact ⟨fun _ => trivial, fun _ => trivial, fun _ => trivial⟩
  | succ n ih =>
    exact ⟨readValue_isSound_step ih, readItems_isSound_step ih, readMembers_isSound_step ih⟩

lemma isDocument_of_read {s : Text} {v : Json} (h : read s = .ok v) : IsDocument v := by
  rw [read.eq_def] at h
  split at h
  · simp at h
  · have hvalue := (isSoundWithin (2 * s.length + 2)).value (skipSpace s)
    split at h
    · simp at h
    · rename_i w r heq
      rw [heq] at hvalue
      split at h
      · obtain rfl := Except.ok.inj h
        exact hvalue.1
      · simp at h

lemma hasRun_of_read {s : Text} {n : Nat} (h : read s = .error (.oversized n)) :
    Text.maxDigits < n ∧ HasRun n s := by
  rw [read.eq_def] at h
  split at h
  · simp at h
  · have hvalue := (isSoundWithin (2 * s.length + 2)).value (skipSpace s)
    split at h
    · rename_i e heq
      rw [heq, Except.error.inj h] at hvalue
      exact hvalue.of_suffix (skipSpace_suffix s)
    · split at h <;> simp at h

lemma read_of_digits {s : Text} (hzero : s.head? ≠ some '0') (h : ∀ c ∈ s, c.isDigit = true)
    (hlength : Text.maxDigits < s.length) : read s = .error (.oversized s.length) := by
  obtain ⟨c, t, rfl⟩ : ∃ c t, s = c :: t := by
    apply List.exists_cons_of_ne_nil
    rintro rfl
    simp at hlength
  have hc := isLead_of_isDigit (h c (by simp))
  have hscan := Numeral.scan_of_digits (List.cons_ne_nil c t) hzero h
  have hmark : ∀ u, c :: t ≠ '\uFEFF' :: u :=
    fun u hu => ne_of_isLead hc rfl (List.cons.inj hu).1
  rw [read.eq_2 (c :: t) hmark, skipSpace_cons (isSpace_of_isLead hc), readValue_of_scan hscan,
    readNumber, hscan]
  dsimp only
  rw [if_neg (by simp [Numeral.isFloat]), if_pos hlength]

end SketchBuild.Json
