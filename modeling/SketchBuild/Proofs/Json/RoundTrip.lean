import SketchBuild.Proofs.Json.Numbers
import SketchBuild.Proofs.Json.Strings
import SketchBuild.Proofs.Table

namespace SketchBuild.Json

open SketchBuild.Numeral (IsOutside isOutside_cons)

/-- The values that a text can hold: whole numbers have no more digits than are read, and the names
of an object differ. -/
inductive IsDocument : Json → Prop
  | null : IsDocument .null
  | bool (b : Bool) : IsDocument (.bool b)
  | int (k : Int) : (Text.ofNat k.natAbs).length ≤ Text.maxDigits → IsDocument (.int k)
  | float (x : Binary64) : IsDocument (.float x)
  | str (s : Text) : IsDocument (.str s)
  | arr (vs : List Json) : (∀ v ∈ vs, IsDocument v) → IsDocument (.arr vs)
  | obj (ms : Members) : (Table.keys ms).Nodup → (∀ m ∈ ms, IsDocument m.2) → IsDocument (.obj ms)

lemma IsDocument.arr_map {α : Type} {f : α → Json} {xs : List α} (h : ∀ x ∈ xs, IsDocument (f x)) :
    IsDocument (.arr (xs.map f)) :=
  .arr _ (List.forall_mem_map.mpr h)

lemma skipSpace_space (n : Nat) (s : Text) :
    skipSpace (List.replicate n ' ' ++ s) = skipSpace s := by
  induction n with
  | zero => rfl
  | succ n ih =>
    rw [List.replicate_succ, List.cons_append, skipSpace, List.dropWhile_cons_of_pos rfl]
    exact ih

lemma skipSpace_newline (depth : Nat) (s : Text) :
    skipSpace (newline depth ++ s) = skipSpace s := by
  rw [newline, List.cons_append, skipSpace, List.dropWhile_cons_of_pos rfl]
  exact skipSpace_space _ s

lemma skipSpace_cons {c : Char} (h : isSpace c = false) (s : Text) : skipSpace (c :: s) = c :: s := by
  rw [skipSpace, List.dropWhile_cons_of_neg (by simp [h])]

def isLead (c : Char) : Bool := 0x20 < c.toNat && c.toNat < 0x7F && c ≠ ']'

lemma isLead_of_isDigit {c : Char} (h : c.isDigit = true) : isLead c = true := by
  have hbounds := Char.isDigit_iff_toNat.mp h
  have hzero : '0'.toNat = 48 := rfl
  have hnine : '9'.toNat = 57 := rfl
  have hclose : c ≠ ']' := by
    rintro rfl
    simp at h
  simp only [isLead, Bool.and_eq_true, decide_eq_true_eq]
  exact ⟨⟨by omega, by omega⟩, hclose⟩

lemma ne_of_isLead {c a : Char} (h : isLead c = true) (ha : isLead a = false) : c ≠ a := by
  rintro rfl
  rw [h] at ha
  exact Bool.noConfusion ha

lemma isSpace_of_isLead {c : Char} (h : isLead c = true) : isSpace c = false := by
  have hspace : c ≠ ' ' := ne_of_isLead h rfl
  have htab : c ≠ '\t' := ne_of_isLead h rfl
  have hline : c ≠ '\n' := ne_of_isLead h rfl
  have hreturn : c ≠ '\r' := ne_of_isLead h rfl
  simp [isSpace, hspace, htab, hline, hreturn]

lemma exists_of_scan {s : Text} {x : Numeral × Text} (h : Numeral.scan s = some x) :
    ∃ c t, s = c :: t ∧ isLead c = true := by
  obtain ⟨c, t, hc, rfl | rfl⟩ := Numeral.scan_head h
  · exact ⟨c, t, rfl, isLead_of_isDigit hc⟩
  · exact ⟨'-', c :: t, rfl, rfl⟩

lemma exists_indented {v : Json} (h : IsDocument v) (depth : Nat) :
    ∃ c s, indented depth v = c :: s ∧ isLead c = true := by
  cases h with
  | null => exact ⟨_, _, rfl, rfl⟩
  | bool b => cases b <;> exact ⟨_, _, rfl, rfl⟩
  | int k _ => exact exists_of_scan (Numeral.scan_ofInt k)
  | float x =>
    cases x with
    | nan => exact ⟨_, _, rfl, rfl⟩
    | infinite negative => cases negative <;> exact ⟨_, _, rfl, rfl⟩
    | finite negative mantissa exponent canonical =>
      obtain ⟨_, hscan, _⟩ := Binary64.scan_magnitudeText negative canonical
      exact exists_of_scan hscan
  | str s => exact ⟨_, _, rfl, rfl⟩
  | arr vs _ => cases vs <;> exact ⟨_, _, rfl, rfl⟩
  | obj ms _ _ => cases ms <;> exact ⟨_, _, rfl, rfl⟩

lemma exists_succ_of_indented {v : Json} (h : IsDocument v) {depth n : Nat}
    (hn : (indented depth v).length ≤ n) : ∃ m, n = m + 1 := by
  obtain ⟨c, s, hs, _⟩ := exists_indented h depth
  rw [hs, List.length_cons] at hn
  exact Nat.exists_eq_succ_of_ne_zero (by omega)

lemma skipSpace_indented {v : Json} (h : IsDocument v) (depth : Nat) (rest : Text) :
    skipSpace (indented depth v ++ rest) = indented depth v ++ rest := by
  obtain ⟨c, s, hs, hc⟩ := exists_indented h depth
  rw [hs, List.cons_append]
  exact skipSpace_cons (isSpace_of_isLead hc) _

section Steps

variable {n : Nat} {k s r t rest : Text} {v : Json}

lemma readItems_last (hv : readValue n s = .ok (v, r)) (hr : skipSpace r = ']' :: rest) :
    readItems (n + 1) s = .ok ([v], rest) := by
  rw [readItems, hv]
  dsimp only
  rw [hr]
  rfl

lemma readItems_comma {vs : List Json} (hv : readValue n s = .ok (v, r))
    (hr : skipSpace r = ',' :: t) (hvs : readItems n (skipSpace t) = .ok (vs, rest)) :
    readItems (n + 1) s = .ok (v :: vs, rest) := by
  rw [readItems, hv]
  dsimp only
  rw [hr]
  simp [hvs]

lemma readMembers_last (hk : readString ('"' :: s) s = .ok (k, ':' :: r))
    (hv : readValue n (skipSpace r) = .ok (v, t)) (ht : skipSpace t = '\x7d' :: rest) :
    readMembers (n + 1) ('"' :: s) = .ok ([(k, v)], rest) := by
  rw [readMembers, hk]
  dsimp only
  rw [skipSpace_cons rfl]
  simp [hv, ht]

lemma readMembers_comma {ms : Members} {u : Text}
    (hk : readString ('"' :: s) s = .ok (k, ':' :: r))
    (hv : readValue n (skipSpace r) = .ok (v, t)) (ht : skipSpace t = ',' :: u)
    (hms : readMembers n (skipSpace u) = .ok (ms, rest)) :
    readMembers (n + 1) ('"' :: s) = .ok ((k, v) :: ms, rest) := by
  rw [readMembers, hk]
  dsimp only
  rw [skipSpace_cons rfl]
  simp [hv, ht, hms]

lemma readValue_arr {vs : List Json} (hr : (skipSpace r).head? ≠ some ']')
    (hvs : readItems n (skipSpace r) = .ok (vs, rest)) :
    readValue (n + 1) ('[' :: r) = .ok (.arr vs, rest) := by
  rw [readValue]
  split
  · rename_i hs
    rw [hs] at hr
    exact (hr rfl).elim
  · rw [hvs]

lemma readValue_obj {ms : Members} (hr : (skipSpace r).head? ≠ some '\x7d')
    (hms : readMembers n (skipSpace r) = .ok (ms, rest)) :
    readValue (n + 1) ('\x7b' :: r) = .ok (.obj (Table.ofList ms), rest) := by
  rw [readValue]
  split
  · rename_i hs
    rw [hs] at hr
    exact (hr rfl).elim
  · rw [hms]

end Steps

def IsReadBack (v : Json) : Prop :=
  ∀ depth n rest, IsOutside rest → (indented depth v).length ≤ n →
    readValue n (indented depth v ++ rest) = .ok (v, rest)

lemma isOutside_newline (depth : Nat) (s : Text) : IsOutside (newline depth ++ s) :=
  isOutside_cons rfl _

lemma indentedItems_cons_cons (depth : Nat) (v w : Json) (vs : List Json) :
    indentedItems depth (v :: w :: vs) =
      newline depth ++ indented depth v ++ ',' :: indentedItems depth (w :: vs) := by
  rw [indentedItems]
  simp

def memberText (depth : Nat) (k : Text) (v : Json) (rest : Text) : Text :=
  '"' :: (k.flatMap escape ++ '"' :: ':' :: ' ' :: (indented depth v ++ rest))

lemma indentedMembers_singleton (depth : Nat) (k : Text) (v : Json) (rest : Text) :
    indentedMembers depth [(k, v)] ++ rest = newline depth ++ memberText depth k v rest := by
  simp [indentedMembers, memberText, quoted]

lemma indentedMembers_cons_cons (depth : Nat) (k : Text) (v : Json) (m : Text × Json)
    (ms : Members) (rest : Text) :
    indentedMembers depth ((k, v) :: m :: ms) ++ rest =
      newline depth ++ memberText depth k v (',' :: (indentedMembers depth (m :: ms) ++ rest)) := by
  rw [indentedMembers]
  · simp [memberText, quoted]
  · simp

lemma readItems_indented (outer depth : Nat) (rest : Text) {vs : List Json} (hne : vs ≠ [])
    (ht : ∀ v ∈ vs, IsDocument v) (hb : ∀ v ∈ vs, IsReadBack v) (n : Nat)
    (hn : (indentedItems depth vs).length ≤ n) :
    readItems n (skipSpace (indentedItems depth vs ++ (newline outer ++ ']' :: rest))) =
      .ok (vs, rest) := by
  induction vs generalizing n with
  | nil => exact (hne rfl).elim
  | cons v vs ih =>
    have htv := ht v (by simp)
    cases n with
    | zero => cases vs <;> simp [indentedItems, newline] at hn
    | succ n =>
      cases vs with
      | nil =>
        simp only [indentedItems, List.length_append, newline, List.length_cons] at hn
        rw [indentedItems, List.append_assoc, skipSpace_newline, skipSpace_indented htv]
        apply readItems_last (hb v (by simp) depth n _ (isOutside_newline outer _) (by omega))
        rw [skipSpace_newline, skipSpace_cons rfl]
      | cons w vs =>
        simp only [indentedItems_cons_cons, List.length_append, newline, List.length_cons] at hn
        rw [indentedItems_cons_cons, List.append_assoc, List.append_assoc, skipSpace_newline,
          skipSpace_indented htv]
        have hv := hb v (by simp) depth n (',' :: (indentedItems depth (w :: vs) ++
          (newline outer ++ ']' :: rest))) (isOutside_cons rfl _) (by omega)
        apply readItems_comma hv (skipSpace_cons rfl _)
        exact ih (by simp) (fun x hx => ht x (by simp [hx])) (fun x hx => hb x (by simp [hx]))
          n (by omega)

lemma readMembers_indented (outer depth : Nat) (rest : Text) {ms : Members} (hne : ms ≠ [])
    (ht : ∀ m ∈ ms, IsDocument m.2) (hb : ∀ m ∈ ms, IsReadBack m.2) (n : Nat)
    (hn : (indentedMembers depth ms).length ≤ n) :
    readMembers n (skipSpace (indentedMembers depth ms ++ (newline outer ++ '\x7d' :: rest))) =
      .ok (ms, rest) := by
  induction ms generalizing n with
  | nil => exact (hne rfl).elim
  | cons m ms ih =>
    obtain ⟨k, v⟩ := m
    have htv : IsDocument v := ht (k, v) (by simp)
    have hbv : IsReadBack v := hb (k, v) (by simp)
    have hspace : ∀ tail : Text, skipSpace (' ' :: (indented depth v ++ tail)) =
        indented depth v ++ tail := by
      intro tail
      have hone := skipSpace_space 1 (indented depth v ++ tail)
      rw [List.replicate_one, List.singleton_append, skipSpace_indented htv] at hone
      exact hone
    cases n with
    | zero => cases ms <;> simp [indentedMembers, newline] at hn
    | succ n =>
      cases ms with
      | nil =>
        simp only [indentedMembers, List.length_append, newline, List.length_cons] at hn
        rw [indentedMembers_singleton, skipSpace_newline, memberText, skipSpace_cons rfl]
        apply readMembers_last (readString_flatMap _ k _)
        · rw [hspace]
          exact hbv depth n _ (isOutside_newline outer _) (by omega)
        · rw [skipSpace_newline, skipSpace_cons rfl]
      | cons m ms =>
        have hlen := congrArg List.length (indentedMembers_cons_cons depth k v m ms [])
        simp only [List.append_nil, List.length_append, memberText, newline,
          List.length_cons] at hlen
        rw [indentedMembers_cons_cons, skipSpace_newline, memberText, skipSpace_cons rfl]
        apply readMembers_comma (readString_flatMap _ k _)
        · rw [hspace]
          exact hbv depth n _ (isOutside_cons rfl _) (by omega)
        · rw [skipSpace_cons rfl]
        · exact ih (by simp) (fun x hx => ht x (by simp [hx])) (fun x hx => hb x (by simp [hx]))
            n (by omega)

lemma head_indentedItems {v : Json} (h : IsDocument v) (depth : Nat) (vs : List Json) (tail : Text) :
    (skipSpace (indentedItems depth (v :: vs) ++ tail)).head? ≠ some ']' := by
  have hstart : ∃ rest, skipSpace (indentedItems depth (v :: vs) ++ tail) =
      indented depth v ++ rest := by
    cases vs with
    | nil =>
      refine ⟨tail, ?_⟩
      rw [indentedItems, List.append_assoc, skipSpace_newline, skipSpace_indented h]
    | cons w vs =>
      refine ⟨',' :: indentedItems depth (w :: vs) ++ tail, ?_⟩
      rw [indentedItems_cons_cons, List.append_assoc, List.append_assoc, skipSpace_newline,
        skipSpace_indented h]
  obtain ⟨rest, hrest⟩ := hstart
  obtain ⟨c, s, hs, hc⟩ := exists_indented h depth
  rw [hrest, hs, List.cons_append, List.head?_cons]
  exact fun hclose => ne_of_isLead hc rfl (Option.some.inj hclose)

lemma head_indentedMembers (depth : Nat) (m : Text × Json) (ms : Members) (tail : Text) :
    (skipSpace (indentedMembers depth (m :: ms) ++ tail)).head? ≠ some '\x7d' := by
  obtain ⟨k, v⟩ := m
  cases ms with
  | nil =>
    rw [indentedMembers_singleton, skipSpace_newline, memberText, skipSpace_cons rfl]
    simp
  | cons m ms =>
    rw [indentedMembers_cons_cons, skipSpace_newline, memberText, skipSpace_cons rfl]
    simp

lemma IsDocument.isReadBack {v : Json} (h : IsDocument v) : IsReadBack v := by
  induction h with
  | null =>
    intro depth n rest _ hn
    obtain ⟨n, rfl⟩ := exists_succ_of_indented .null hn
    rfl
  | bool b =>
    intro depth n rest _ hn
    obtain ⟨n, rfl⟩ := exists_succ_of_indented (.bool b) hn
    cases b <;> rfl
  | int k hk =>
    intro depth n rest hrest hn
    obtain ⟨n, rfl⟩ := exists_succ_of_indented (.int k hk) hn
    exact readValue_ofInt hrest hk n
  | float x =>
    intro depth n rest hrest hn
    obtain ⟨n, rfl⟩ := exists_succ_of_indented (.float x) hn
    exact readValue_floatText hrest x n
  | str s =>
    intro depth n rest _ hn
    obtain ⟨n, rfl⟩ := exists_succ_of_indented (.str s) hn
    have htext : indented depth (.str s) ++ rest = '"' :: (s.flatMap escape ++ '"' :: rest) := by
      simp [indented, atomText, quoted]
    rw [htext, readValue, readString_flatMap]
  | arr vs ht ih =>
    intro depth n rest _ hn
    obtain ⟨n, rfl⟩ := exists_succ_of_indented (.arr vs ht) hn
    cases vs with
    | nil => rfl
    | cons v vs =>
      have htext : indented depth (.arr (v :: vs)) ++ rest =
          '[' :: (indentedItems (depth + 1) (v :: vs) ++ (newline depth ++ ']' :: rest)) := by
        simp [indented]
      simp only [indented, List.length_cons, List.length_append] at hn
      rw [htext]
      apply readValue_arr
      · exact head_indentedItems (ht v (by simp)) (depth + 1) vs _
      · exact readItems_indented depth (depth + 1) rest (by simp) ht ih n (by omega)
  | obj ms hk ht ih =>
    intro depth n rest _ hn
    obtain ⟨n, rfl⟩ := exists_succ_of_indented (.obj ms hk ht) hn
    cases ms with
    | nil => rfl
    | cons m ms =>
      have htext : indented depth (.obj (m :: ms)) ++ rest = '\x7b' ::
          (indentedMembers (depth + 1) (m :: ms) ++ (newline depth ++ '\x7d' :: rest)) := by
        simp [indented]
      simp only [indented, List.length_cons, List.length_append] at hn
      have hread := readMembers_indented depth (depth + 1) rest (by simp) ht ih n (by omega)
      rw [htext, readValue_obj (head_indentedMembers (depth + 1) m ms _) hread,
        Table.ofList_self hk]

lemma read_pretty {v : Json} (h : IsDocument v) : read (v.pretty ++ ['\n']) = .ok v := by
  obtain ⟨c, s, hs, hc⟩ := exists_indented h 0
  have hmark : c ≠ '\uFEFF' := ne_of_isLead hc rfl
  have hread := h.isReadBack 0 (2 * (v.pretty ++ ['\n']).length + 2) ['\n'] (isOutside_cons rfl [])
    (by rw [pretty, List.length_append]; omega)
  have hspace := skipSpace_indented h 0 ['\n']
  rw [← pretty] at hread hspace
  rw [read.eq_def]
  split
  · rename_i heq
    rw [pretty, hs] at heq
    exact (hmark (List.cons.inj heq).1).elim
  · rw [hspace, hread]
    rfl

section Characters

def isPlain (c : Char) : Bool := c = '\n' || (0x20 ≤ c.toNat && c.toNat < 0x7F)

lemma isPlain_digitChar : ∀ n < 16, isPlain (Nat.digitChar n) = true := by decide

lemma all_unitEscape {n : Nat} (h : n < 0x10000) : (unitEscape n).all isPlain = true := by
  rw [unitEscape, hex_four h]
  simp only [List.all_cons, List.all_nil, isPlain_digitChar (n / 4096) (by omega),
    isPlain_digitChar (n / 256 % 16) (by omega), isPlain_digitChar (n / 16 % 16) (by omega),
    isPlain_digitChar (n % 16) (by omega)]
  rfl

lemma all_escape (c : Char) : (escape c).all isPlain = true := by
  have hc := toNat_lt c
  unfold escape
  split
  any_goals rfl
  dsimp only
  split
  · rename_i h
    simp only [List.all_cons, List.all_nil, isPlain, h, Bool.or_true, Bool.and_true]
  · split
    · exact all_unitEscape (by assumption)
    · rw [List.all_append, all_unitEscape (by omega), all_unitEscape (by omega)]
      rfl

lemma all_quoted (s : Text) : (quoted s).all isPlain = true := by
  have hs : (s.flatMap escape).all isPlain = true := by
    rw [List.all_flatMap, List.all_eq_true]
    exact fun c _ => all_escape c
  rw [quoted, List.cons_append, List.all_cons, List.all_append, hs]
  rfl

lemma all_newline (depth : Nat) : (newline depth).all isPlain = true := by
  rw [newline, List.all_cons, List.all_eq_true.mpr]
  · rfl
  · intro c hc
    rw [List.eq_of_mem_replicate hc]
    rfl

lemma all_indentedItems (depth : Nat) (vs : List Json)
    (h : ∀ v ∈ vs, ∀ depth, (indented depth v).all isPlain = true) :
    (indentedItems depth vs).all isPlain = true := by
  induction vs with
  | nil => rfl
  | cons v vs ih =>
    cases vs with
    | nil => rw [indentedItems, List.all_append, all_newline, h v (by simp)]; rfl
    | cons w vs =>
      rw [indentedItems_cons_cons, List.all_append, List.all_append, List.all_cons, all_newline,
        h v (by simp), ih fun x hx => h x (by simp [hx])]
      rfl

lemma all_memberText {depth : Nat} {k : Text} {v : Json} {rest : Text}
    (hv : (indented depth v).all isPlain = true) (hrest : rest.all isPlain = true) :
    (memberText depth k v rest).all isPlain = true := by
  have htext : memberText depth k v rest =
      quoted k ++ ':' :: ' ' :: (indented depth v ++ rest) := by
    simp [memberText, quoted]
  rw [htext, List.all_append, all_quoted, List.all_cons, List.all_cons, List.all_append, hv, hrest]
  rfl

lemma all_indentedMembers (depth : Nat) (ms : Members)
    (h : ∀ m ∈ ms, ∀ depth, (indented depth m.2).all isPlain = true) :
    (indentedMembers depth ms).all isPlain = true := by
  induction ms with
  | nil => rfl
  | cons m ms ih =>
    obtain ⟨k, v⟩ := m
    cases ms with
    | nil =>
      have htext := indentedMembers_singleton depth k v []
      rw [List.append_nil] at htext
      rw [htext, List.all_append, all_newline, all_memberText (h (k, v) (by simp) depth) rfl]
      rfl
    | cons w ms =>
      have htext := indentedMembers_cons_cons depth k v w ms []
      rw [List.append_nil, List.append_nil] at htext
      rw [htext, List.all_append, all_newline, all_memberText (h (k, v) (by simp) depth)]
      · rfl
      · rw [List.all_cons, ih fun x hx => h x (by simp [hx])]
        rfl

lemma isPlain_of_isMark {c : Char} (h : Numeral.isMark c = true) : isPlain c = true := by
  by_cases hc : c.isDigit = true
  · have hbounds := Char.isDigit_iff_toNat.mp hc
    have hzero : '0'.toNat = 48 := rfl
    have hnine : '9'.toNat = 57 := rfl
    simp only [isPlain, Bool.or_eq_true, Bool.and_eq_true, decide_eq_true_eq]
    exact Or.inr ⟨by omega, by omega⟩
  · simp only [Numeral.isMark, hc, Bool.false_or, Bool.or_eq_true, decide_eq_true_eq] at h
    rcases h with (((rfl | rfl) | rfl) | rfl) | rfl <;> rfl

lemma all_of_scan {s : Text} {n : Numeral} (h : Numeral.scan s = some (n, [])) :
    s.all isPlain = true := by
  obtain ⟨⟨p, rfl, hp⟩, _⟩ := Numeral.scan_whole h
  rw [List.append_nil, List.all_eq_true]
  exact fun c hc => isPlain_of_isMark (hp c hc)

lemma IsDocument.all_indented {v : Json} (h : IsDocument v) (depth : Nat) :
    (indented depth v).all isPlain = true := by
  induction h generalizing depth with
  | null => rfl
  | bool b => cases b <;> rfl
  | int k _ => exact all_of_scan (Numeral.scan_ofInt k)
  | float x =>
    cases x with
    | nan => rfl
    | infinite negative => cases negative <;> rfl
    | finite negative mantissa exponent canonical =>
      obtain ⟨_, hscan, _⟩ := Binary64.scan_magnitudeText negative canonical
      exact all_of_scan hscan
  | str s => exact all_quoted s
  | arr vs _ ih =>
    cases vs with
    | nil => rfl
    | cons v vs =>
      simp only [indented, List.all_append, List.all_cons, all_indentedItems _ _ ih, all_newline]
      rfl
  | obj ms _ _ ih =>
    cases ms with
    | nil => rfl
    | cons m ms =>
      simp only [indented, List.all_append, List.all_cons, all_indentedMembers _ _ ih, all_newline]
      rfl

end Characters

end SketchBuild.Json
