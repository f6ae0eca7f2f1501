import SketchBuild.Proofs.Diagnostic.Printed

/-! A text is cut at the first colon at which it can be: of all the ways to cut it into a path, numbers,
a severity and a message, the one with the shortest path is taken. -/

namespace SketchBuild

lemma Text.not_isDigit_of_isBlank {c : Char} (h : Text.isBlank c = true) : Text.isDigit c = false := by
  have hapart : ∀ z ∈ Text.zeros, 0x30 ≤ z ∧ (z + 9 < 0x85 ∨ 0x85 < z) ∧ (z + 9 < 0xA0 ∨ 0xA0 < z) ∧
      (z + 9 < 0x1680 ∨ 0x1680 < z) ∧ (z + 9 < 0x2000 ∨ 0x3000 < z) := by decide
  by_contra hd
  rw [Bool.not_eq_false, Text.isDigit, Option.isSome_iff_exists] at hd
  obtain ⟨n, hn⟩ := hd
  obtain ⟨z, hz, _⟩ := Option.map_eq_some_iff.mp hn
  have hbounds := List.find?_some hz
  have haway := hapart z (List.mem_of_find?_eq_some hz)
  simp only [Text.isBlank, Bool.or_eq_true, Bool.and_eq_true, decide_eq_true_eq] at h hbounds
  omega

namespace Diagnostic

def numberText : Option Text → Text
  | none => []
  | some digits => digits ++ [':']

def IsNumber (number : Option Text) : Prop :=
  ∀ digits ∈ number, digits ≠ [] ∧ ∀ c ∈ digits, Text.isDigit c = true

/-- What can stand behind the colon of a path: up to two numbers, of which the first is the line, the
word for a severity, and a message that still has its blanks. -/
structure IsTail (s : Text) (t : Tail) : Prop where
  line : IsNumber t.line
  column : IsNumber t.column
  first : t.line = none → t.column = none
  text : ∃ blanks word, (∀ c ∈ blanks, Text.isBlank c = true) ∧
    (word, t.severity) ∈ severityWords ∧
    s = numberText t.line ++ (numberText t.column ++ (blanks ++ (word ++ ':' :: t.message)))

structure IsCut (s path : Text) (t : Tail) : Prop where
  ne_nil : path ≠ []
  tail : ∃ behind, s = path ++ ':' :: behind ∧ IsTail behind t

structure IsFirstCut (s path : Text) (t : Tail) : Prop extends IsCut s path t where
  shortest : ∀ path' t', IsCut s path' t' → path.length ≤ path'.length

def Tail.trimmed (t : Tail) : Tail := { t with message := Text.stripLeft t.message }

section Tail

lemma number?_spec (s : Text) :
    IsNumber (number? s).1 ∧ s = numberText (number? s).1 ++ (number? s).2 ∧
      ((number? s).1 = none → (number? s).2 = s) := by
  have hs : s.takeWhile Text.isDigit ++ s.dropWhile Text.isDigit = s := List.takeWhile_append_dropWhile
  have hnone : IsNumber none := by
    intro _ hdigits
    simp at hdigits
  rw [number?]
  split
  · exact ⟨hnone, rfl, fun _ => rfl⟩
  · rename_i rest hdrop hne
    refine ⟨?_, ?_, by simp⟩
    · rintro digits hdigits
      obtain rfl := Option.some.inj hdigits
      exact ⟨hne, fun c hc => List.mem_takeWhile_imp hc⟩
    · rw [numberText, List.append_assoc, List.singleton_append, ← hdrop, hs]
  · exact ⟨hnone, rfl, fun _ => rfl⟩

lemma number?_of_head {s : Text} (h : ∀ c ∈ s.head?, Text.isDigit c = false) :
    number? s = (none, s) := by
  have htake : s.takeWhile Text.isDigit = [] := by
    cases s with
    | nil => rfl
    | cons c s => rw [List.takeWhile_cons_of_neg (by simp [h c (by simp)])]
  rw [number?, htake]

lemma severity?_eq_some_iff {s rest : Text} {severity : Option Severity} :
    severity? s = some (severity, rest) ↔
      ∃ word, (word, severity) ∈ severityWords ∧ s = word ++ ':' :: rest := by
  constructor
  · intro h
    obtain ⟨⟨word, kind⟩, hmem, hword⟩ := List.exists_of_findSome?_eq_some h
    obtain ⟨t, ht, heq⟩ := Option.map_eq_some_iff.mp hword
    obtain ⟨rfl, rfl⟩ := Prod.mk.inj heq
    refine ⟨word, hmem, ?_⟩
    rw [Text.dropPrefix?_eq_some ht, List.append_assoc, List.singleton_append]
  · rintro ⟨word, hmem, rfl⟩
    simp only [severityWords, List.mem_cons, List.not_mem_nil, or_false, Prod.mk.injEq] at hmem
    rcases hmem with ⟨rfl, rfl⟩ | ⟨rfl, rfl⟩ | ⟨rfl, rfl⟩ | ⟨rfl, rfl⟩ <;> rfl

lemma head_of_mem_severityWords {word : Text} {severity : Option Severity}
    (h : (word, severity) ∈ severityWords) (rest : Text) {c : Char}
    (hc : c ∈ (word ++ rest).head?) : Text.isBlank c = false ∧ Text.isDigit c = false := by
  have hwords : ∀ row ∈ severityWords, ∃ a w, row.1 = a :: w ∧ Text.isBlank a = false ∧
      Text.isDigit a = false := by
    simp only [severityWords, List.forall_mem_cons, List.not_mem_nil]
    refine ⟨⟨_, _, rfl, by decide, by decide⟩, ⟨_, _, rfl, by decide, by decide⟩,
      ⟨_, _, rfl, by decide, by decide⟩, ⟨_, _, rfl, by decide, by decide⟩, by simp⟩
  obtain ⟨a, w, rfl, hblank, hdigit⟩ := hwords _ h
  obtain rfl : a = c := by simpa using hc
  exact ⟨hblank, hdigit⟩

lemma not_isDigit_head {blanks word : Text} {severity : Option Severity}
    (hblanks : ∀ c ∈ blanks, Text.isBlank c = true) (hword : (word, severity) ∈ severityWords)
    (rest : Text) :
    ∀ c ∈ (blanks ++ (word ++ rest)).head?, Text.isDigit c = false := by
  intro c hc
  cases blanks with
  | nil => exact (head_of_mem_severityWords hword rest hc).2
  | cons b blanks =>
    obtain rfl : b = c := by simpa using hc
    exact Text.not_isDigit_of_isBlank (hblanks b (by simp))

lemma tail?_of_isTail {s : Text} {t : Tail} (h : IsTail s t) (hfeed : '\n' ∉ s) :
    tail? s = some t.trimmed := by
  obtain ⟨blanks, word, hblanks, hword, hs⟩ := h.text
  have hstrip : Text.stripLeft (blanks ++ (word ++ ':' :: t.message)) = word ++ ':' :: t.message := by
    rw [Text.stripLeft, List.dropWhile_append_of_pos hblanks]
    exact Text.stripLeft_eq_self fun c hc => (head_of_mem_severityWords hword _ hc).1
  have hseverity : severity? (word ++ ':' :: t.message) = some (t.severity, t.message) :=
    severity?_eq_some_iff.mpr ⟨word, hword, rfl⟩
  have hmessage : '\n' ∉ Text.stripLeft t.message := by
    intro hc
    have hmem := (Text.stripLeft_suffix t.message).mem hc
    exact hfeed (by simp [hs, hmem])
  have hnone := number?_of_head (not_isDigit_head hblanks hword (':' :: t.message))
  have hnumbers : number? s = (t.line, (number? s).2) ∧ number? (number? s).2 =
      (t.column, blanks ++ (word ++ ':' :: t.message)) := by
    cases hline : t.line with
    | none =>
      rw [hline, h.first hline, numberText, List.nil_append, List.nil_append] at hs
      rw [h.first hline, hs, hnone]
      exact ⟨rfl, hnone⟩
    | some digits =>
      obtain ⟨hne, hdigits⟩ := h.line digits hline
      rw [hline, numberText, List.append_assoc, List.singleton_append] at hs
      rw [hs, number?_digits hdigits hne]
      refine ⟨rfl, ?_⟩
      cases hcolumn : t.column with
      | none => exact hnone
      | some more =>
        obtain ⟨hne, hmore⟩ := h.column more hcolumn
        rw [numberText, List.append_assoc, List.singleton_append, number?_digits hmore hne]
  simp only [tail?]
  rw [hnumbers.1]
  simp only [hnumbers.2, hstrip, hseverity]
  rw [if_neg (by simpa using hmessage)]
  rfl

lemma exists_isTail {s : Text} {t : Tail} (h : tail? s = some t) :
    ∃ raw, IsTail s raw ∧ raw.trimmed = t := by
  obtain ⟨hline, hs, hsame⟩ := number?_spec s
  obtain ⟨hcolumn, hbehind, _⟩ := number?_spec (number? s).2
  simp only [tail?] at h
  split at h
  · simp at h
  · rename_i severity rest hseverity
    split at h
    · simp at h
    · obtain rfl := Option.some.inj h
      obtain ⟨word, hword, hrest⟩ := severity?_eq_some_iff.mp hseverity
      obtain ⟨blanks, hblanks, heq⟩ := Text.exists_blanks_stripLeft (number? (number? s).2).2
      refine ⟨⟨(number? s).1, (number? (number? s).2).1, severity, rest⟩, ?_, rfl⟩
      refine ⟨hline, hcolumn, ?_, blanks, word, hblanks, hword, ?_⟩
      · intro hnone
        simp only [hsame hnone] at hnone ⊢
        exact hnone
      · rw [← hrest, ← heq, ← hbehind, ← hs]

end Tail

section Split

variable {s : Text}

lemma isCut_cons {c : Char} {path : Text} {t : Tail} :
    IsCut (c :: s) path t ↔ (path = [c] ∧ ∃ behind, s = ':' :: behind ∧ IsTail behind t) ∨
      ∃ path', path = c :: path' ∧ IsCut s path' t := by
  constructor
  · rintro ⟨hne, behind, heq, ht⟩
    obtain ⟨a, path, rfl⟩ := List.exists_cons_of_ne_nil hne
    obtain ⟨rfl, hs⟩ := List.cons.inj heq
    cases path with
    | nil => exact Or.inl ⟨rfl, behind, hs, ht⟩
    | cons b path => exact Or.inr ⟨b :: path, rfl, List.cons_ne_nil b path, behind, hs, ht⟩
  · rintro (⟨rfl, behind, rfl, ht⟩ | ⟨path, rfl, hcut⟩)
    · exact ⟨List.cons_ne_nil c [], behind, rfl, ht⟩
    · obtain ⟨behind, rfl, ht⟩ := hcut.tail
      exact ⟨List.cons_ne_nil c path, behind, rfl, ht⟩

lemma split?_cases {c : Char} (hc : c ≠ '\n') (s : Text) :
    (∃ behind t, s = ':' :: behind ∧ tail? behind = some t ∧ split? (c :: s) = some ([c], t)) ∨
      ((∀ behind, s = ':' :: behind → tail? behind = none) ∧
        split? (c :: s) = (split? s).map fun (path, t) => (c :: path, t)) := by
  cases s with
  | nil =>
    refine Or.inr ⟨by simp, ?_⟩
    simp [split?, hc]
  | cons a s =>
    by_cases ha : a = ':'
    · subst ha
      cases ht : tail? s with
      | some t => exact Or.inl ⟨s, t, rfl, ht, split?_colon hc ht⟩
      | none =>
        refine Or.inr ⟨?_, split?_colon_none hc ht⟩
        rintro behind hs
        obtain ⟨_, rfl⟩ := List.cons.inj hs
        exact ht
    · refine Or.inr ⟨?_, split?_cons hc ha⟩
      rintro behind hs
      exact (ha (List.cons.inj hs).1).elim

lemma IsCut.isSome_split? (hfeed : '\n' ∉ s) {path : Text} {t : Tail} (h : IsCut s path t) :
    (split? s).isSome = true := by
  induction s generalizing path with
  | nil =>
    obtain ⟨behind, heq, _⟩ := h.tail
    simp at heq
  | cons c s ih =>
    simp only [List.mem_cons, not_or] at hfeed
    rcases split?_cases (Ne.symm hfeed.1) s with ⟨behind, t', _, _, hs⟩ | ⟨hnone, hs⟩
    · rw [hs]
      rfl
    · rcases isCut_cons.mp h with ⟨_, behind, rfl, ht⟩ | ⟨path, _, hcut⟩
      · have hbehind := tail?_of_isTail ht fun hmem => hfeed.2 (by simp [hmem])
        simp [hnone behind rfl] at hbehind
      · rw [hs, Option.isSome_map]
        exact ih hfeed.2 hcut

lemma exists_isFirstCut (hfeed : '\n' ∉ s) {path : Text} {t : Tail}
    (h : split? s = some (path, t)) : ∃ raw, IsFirstCut s path raw ∧ raw.trimmed = t := by
  induction s generalizing path with
  | nil => simp [split?] at h
  | cons c s ih =>
    simp only [List.mem_cons, not_or] at hfeed
    rcases split?_cases (Ne.symm hfeed.1) s with ⟨behind, t', rfl, ht, hs⟩ | ⟨hnone, hs⟩
    · obtain ⟨rfl, rfl⟩ := Prod.mk.inj (Option.some.inj (hs.symm.trans h))
      obtain ⟨raw, hraw, rfl⟩ := exists_isTail ht
      refine ⟨raw, ⟨isCut_cons.mpr (Or.inl ⟨rfl, behind, rfl, hraw⟩), ?_⟩, rfl⟩
      intro path' t' hcut
      exact List.length_pos_iff.mpr hcut.ne_nil
    · rw [hs] at h
      obtain ⟨⟨path', t'⟩, h', heq⟩ := Option.map_eq_some_iff.mp h
      obtain ⟨rfl, rfl⟩ := Prod.mk.inj heq
      obtain ⟨raw, hraw, rfl⟩ := ih hfeed.2 h'
      refine ⟨raw, ⟨isCut_cons.mpr (Or.inr ⟨path', rfl, hraw.toIsCut⟩), ?_⟩, rfl⟩
      intro other t' hcut
      rcases isCut_cons.mp hcut with ⟨rfl, behind, rfl, ht⟩ | ⟨other, rfl, hlonger⟩
      · have hbehind := tail?_of_isTail ht fun hmem => hfeed.2 (by simp [hmem])
        simp [hnone behind rfl] at hbehind
      · exact Nat.succ_le_succ (hraw.shortest other t' hlonger)

lemma IsFirstCut.split?_eq (hfeed : '\n' ∉ s) {path : Text} {t : Tail} (h : IsFirstCut s path t) :
    split? s = some (path, t.trimmed) := by
  obtain ⟨⟨path', t'⟩, hsplit⟩ := Option.isSome_iff_exists.mp (h.isSome_split? hfeed)
  obtain ⟨raw, hraw, rfl⟩ := exists_isFirstCut hfeed hsplit
  have hlength := Nat.le_antisymm (h.shortest _ _ hraw.toIsCut) (hraw.shortest _ _ h.toIsCut)
  obtain ⟨behind, hs, ht⟩ := h.tail
  obtain ⟨behind', hs', ht'⟩ := hraw.tail
  -- Two cuts of the same length are at the same colon.
  obtain ⟨rfl, heq⟩ := List.append_inj (hs.symm.trans hs') hlength
  obtain ⟨_, rfl⟩ := List.cons.inj heq
  have hbehind : '\n' ∉ behind := fun hmem => hfeed (by simp [hs, hmem])
  have htrimmed := (tail?_of_isTail ht hbehind).symm.trans (tail?_of_isTail ht' hbehind)
  rw [hsplit, Option.some.inj htrimmed]

end Split

end Diagnostic

end SketchBuild
