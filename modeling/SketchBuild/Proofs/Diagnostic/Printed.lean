import SketchBuild.Diagnostic.Report
import SketchBuild.Proofs.Diagnostic.Reading
import SketchBuild.Proofs.Path.Again

namespace SketchBuild

def Path.afterDrive : Text → Text
  | c :: ':' :: s => if c.isAlpha then s else c :: ':' :: s
  | s => s

def Severity.word : Severity → Text
  | .error => "error"
  | .warning => "warning"

namespace Diagnostic

/-- No colon but that of a drive, and no blanks around it. -/
structure IsDelimited (p : Text) : Prop where
  colon : ':' ∉ Path.afterDrive p
  trimmed : Text.strip p = p

/-- A path that can be told from what follows it on a line, and that leads to itself. -/
structure IsReadable (p : Text) : Prop extends IsDelimited p where
  feed : '\n' ∉ p
  carriage : '\r' ∉ p
  colors : dropColors .plain p = p
  located : Path.IsLocated p

lemma exists_of_isAbsolute {p : Text} (h : Path.isAbsolute p = true) :
    (∃ s q, (s = '/' ∨ s = '\\') ∧ p = s :: q) ∨
      ∃ c s q, c.isAlpha = true ∧ (s = '/' ∨ s = '\\') ∧ p = c :: ':' :: s :: q := by
  cases p with
  | nil => simp [Path.isAbsolute, Path.isDriveRooted] at h
  | cons c p =>
    simp only [Path.isAbsolute, List.head?_cons, Option.some.injEq, Bool.or_eq_true,
      decide_eq_true_eq] at h
    rcases h with hc | hd
    · exact Or.inl ⟨c, p, hc, rfl⟩
    · unfold Path.isDriveRooted at hd
      split at hd
      · rename_i a s q heq
        simp only [Bool.and_eq_true, Bool.or_eq_true, decide_eq_true_eq] at hd
        exact Or.inr ⟨a, s, q, hd.1, hd.2, heq⟩
      · simp at hd

lemma afterDrive_of_not_isAlpha {c : Char} (hc : c.isAlpha = false) (q : Text) :
    Path.afterDrive (c :: q) = c :: q := by
  unfold Path.afterDrive
  split
  · rename_i heq
    obtain ⟨rfl, rfl⟩ := List.cons.inj heq
    rw [hc, if_neg (by simp)]
  · rfl

lemma number?_digits {digits : Text} (h : ∀ c ∈ digits, Text.isDigit c = true) (hne : digits ≠ [])
    (rest : Text) : number? (digits ++ ':' :: rest) = (some digits, rest) := by
  have hcolon : Text.isDigit ':' = false := by decide
  have htake : (digits ++ ':' :: rest).takeWhile Text.isDigit = digits := by
    rw [List.takeWhile_append_of_pos h, List.takeWhile_cons_of_neg (by simp [hcolon]),
      List.append_nil]
  have hdrop : (digits ++ ':' :: rest).dropWhile Text.isDigit = ':' :: rest := by
    rw [List.dropWhile_append_of_pos h, List.dropWhile_cons_of_neg (by simp [hcolon])]
  rw [number?, htake, hdrop]
  cases digits with
  | nil => exact (hne rfl).elim
  | cons c digits => rfl

lemma number?_ofNat (n : Nat) (rest : Text) :
    number? (Text.ofNat n ++ ':' :: rest) = (some (Text.ofNat n), rest) :=
  number?_digits (fun _ => Text.isDigit_of_mem_ofNat) (Text.ofNat_ne_nil n) rest

lemma severity?_word (severity : Severity) (rest : Text) :
    severity? (severity.word ++ ':' :: rest) = some (some severity, rest) := by
  cases severity <;> rfl

def place (r : Diagnostic) (rest : Text) : Text :=
  Text.ofNat r.line ++ ':' :: (Text.ofNat r.column ++ ':' :: ' ' :: (r.severity.word ++ ':' :: rest))

lemma tail?_place {r : Diagnostic} {rest : Text} (hrest : Text.stripLeft rest = r.message)
    (hfeed : '\n' ∉ r.message) :
    tail? (r.place rest) = some {
      line := some (Text.ofNat r.line)
      column := some (Text.ofNat r.column)
      severity := some r.severity
      message := r.message } := by
  have hblank : Text.stripLeft (' ' :: (r.severity.word ++ ':' :: rest)) =
      r.severity.word ++ ':' :: rest := by
    cases r.severity <;> rfl
  simp only [tail?, place, number?_ofNat, hblank, severity?_word, hrest]
  rw [if_neg (by simpa using hfeed)]

lemma tail?_separator {s : Char} (hs : s = '/' ∨ s = '\\') (rest : Text) :
    tail? (s :: rest) = none := by
  rcases hs with rfl | rfl <;> rfl

section Split

variable {c : Char} {rest : Text} (hc : c ≠ '\n')

include hc

lemma split?_colon {tail : Tail} (ht : tail? rest = some tail) :
    split? (c :: ':' :: rest) = some ([c], tail) := by
  simp [split?, hc, ht]

lemma split?_colon_none (ht : tail? rest = none) :
    split? (c :: ':' :: rest) =
      (split? (':' :: rest)).map fun (path, tail) => (c :: path, tail) := by
  conv_lhs => rw [split?]
  simp [hc, ht]

lemma split?_cons {a : Char} (ha : a ≠ ':') :
    split? (c :: a :: rest) = (split? (a :: rest)).map fun (path, tail) => (c :: path, tail) := by
  conv_lhs => rw [split?]
  simp [hc, ha]

end Split

lemma split?_delimited {c : Char} {p rest : Text} {tail : Tail} (hfeed : '\n' ∉ c :: p)
    (hcolon : ':' ∉ p) (ht : tail? rest = some tail) :
    split? (c :: (p ++ ':' :: rest)) = some (c :: p, tail) := by
  induction p generalizing c with
  | nil =>
    simp only [List.mem_singleton] at hfeed
    exact split?_colon (Ne.symm hfeed) ht
  | cons a p ih =>
    simp only [List.mem_cons, not_or] at hfeed hcolon
    have hlonger := ih (c := a) (by simpa using hfeed.2) hcolon.2
    rw [List.cons_append, split?_cons (Ne.symm hfeed.1) (Ne.symm hcolon.1), hlonger]
    rfl

lemma split?_readable {p rest : Text} {tail : Tail} (hp : IsReadable p)
    (ht : tail? rest = some tail) : split? (p ++ ':' :: rest) = some (p, tail) := by
  have hcolon := hp.colon
  have hfeed := hp.feed
  rcases exists_of_isAbsolute hp.located.absolute with ⟨s, q, hs, rfl⟩ | ⟨c, s, q, hc, hs, rfl⟩
  · have hletter : s.isAlpha = false := by
      rcases hs with rfl | rfl <;> rfl
    rw [afterDrive_of_not_isAlpha hletter] at hcolon
    exact split?_delimited hfeed (fun h => hcolon (by simp [h])) ht
  · rw [Path.afterDrive, if_pos hc] at hcolon
    simp only [List.mem_cons, not_or] at hfeed
    -- the colon of the drive comes first, and no position or severity stands behind it
    have hnone : tail? (s :: q ++ ':' :: rest) = none := tail?_separator hs _
    have hlonger : split? (':' :: (s :: q ++ ':' :: rest)) = some (':' :: s :: q, tail) :=
      split?_delimited (by simpa using hfeed.2) hcolon ht
    rw [List.cons_append, List.cons_append, split?_colon_none (Ne.symm hfeed.1) hnone, hlonger]
    rfl

lemma colored_plain (text : Text) : Palette.plain.colored text [] [] = text := by
  simp [Palette.colored]

lemma ofSeverity_plain (name : Text) : Palette.plain.ofSeverity name = ([], []) := by
  simp only [Palette.ofSeverity]
  split
  · rfl
  · split <;> rfl

lemma lower_name (severity : Severity) : Text.lower severity.name = severity.word := by
  cases severity <;> decide

lemma rendered_plain (path : Text) (r : Diagnostic) :
    rendered .plain path r = path ++ ':' :: r.place (' ' :: r.message) := by
  have hline : Text.ofInt (r.line : Int) = Text.ofNat r.line := rfl
  have hcolumn : Text.ofInt (r.column : Int) = Text.ofNat r.column := rfl
  have hwhite : Palette.plain.white = [] := rfl
  have hbright : Palette.plain.bright = [] := rfl
  simp only [rendered, Palette.diagnostic, ofSeverity_plain, lower_name, hline, hcolumn, hwhite,
    hbright, colored_plain, place]
  simp

lemma place_append (r : Diagnostic) (rest s : Text) : r.place (rest ++ s) = r.place rest ++ s := by
  simp [place]

lemma getLast?_place_nil (r : Diagnostic) : (r.place []).getLast? = some ':' := by
  have hend : r.place [] = (Text.ofNat r.line ++
      ':' :: (Text.ofNat r.column ++ ':' :: ' ' :: r.severity.word)) ++ [':'] := by
    simp [place]
  rw [hend, List.getLast?_concat]

lemma IsReadable.ne_nil {p : Text} (h : IsReadable p) : p ≠ [] := by
  rintro rfl
  have habs := h.located.absolute
  simp [Path.isAbsolute, Path.isDriveRooted] at habs

lemma IsReadable.not_isBlank_head {p : Text} (h : IsReadable p) (s : Text) :
    ∀ c ∈ (p ++ s).head?, Text.isBlank c = false := by
  intro c hc
  apply Text.not_isBlank_head_strip (s := p)
  rwa [h.trimmed, ← List.head?_append_of_ne_nil p h.ne_nil]

lemma exists_strip_rendered {p : Text} {r : Diagnostic} (hp : IsReadable p)
    (hr : Text.strip r.message = r.message) :
    ∃ rest, Text.stripLeft rest = r.message ∧
      Text.strip (rendered .plain p r) = p ++ ':' :: r.place rest := by
  have hblank : Text.isBlank ' ' = true := by decide
  have hleft : Text.stripLeft (' ' :: r.message) = r.message := by
    rw [Text.stripLeft, List.dropWhile_cons_of_pos hblank]
    apply Text.stripLeft_eq_self
    intro c hc
    rw [← hr] at hc
    exact Text.not_isBlank_head_strip hc
  have hline : rendered .plain p r = (p ++ ':' :: r.place []) ++ ' ' :: r.message := by
    rw [rendered_plain, ← List.nil_append (' ' :: r.message), place_append]
    simp
  by_cases hm : r.message = []
  · refine ⟨[], hm.symm, ?_⟩
    rw [hline, hm]
    apply Text.strip_concat_blank hblank (hp.not_isBlank_head _) ?_ (by simp)
    intro c hc
    rw [List.getLast?_append_of_ne_nil _ (by simp), List.getLast?_cons_of_ne_nil (by simp [place]),
      getLast?_place_nil, Option.mem_def, Option.some.injEq] at hc
    rw [← hc]
    decide
  · refine ⟨' ' :: r.message, hleft, ?_⟩
    rw [rendered_plain]
    apply Text.strip_eq_self (hp.not_isBlank_head _)
    intro c hc
    apply Text.not_isBlank_last_strip (s := r.message)
    rwa [← rendered_plain, hline, List.getLast?_append_of_ne_nil _ (by simp),
      List.getLast?_cons_of_ne_nil hm, ← hr] at hc

lemma isChainLine_readable {p : Text} (hp : IsReadable p) (rest : Text) :
    isChainLine (p ++ ':' :: rest) = false := by
  have hwords : ∀ w ∈ chainWords,
      ∃ a b t, w = a :: b :: t ∧ a ≠ '/' ∧ a ≠ '\\' ∧ b ≠ ':' := by
    intro w hw
    simp only [chainWords, List.mem_cons, List.not_mem_nil, or_false] at hw
    rcases hw with rfl | rfl
    · exact ⟨'I', 'n', _, rfl, by decide⟩
    · exact ⟨'f', 'r', _, rfl, by decide⟩
  rw [isChainLine, Text.stripLeft_eq_self (hp.not_isBlank_head _)]
  apply List.any_eq_false.mpr
  intro w hw
  obtain ⟨a, b, t, rfl, hslash, hback, hcolon⟩ := hwords w hw
  rcases exists_of_isAbsolute hp.located.absolute with ⟨s, q, rfl | rfl, rfl⟩ | ⟨c, s, q, _, _, rfl⟩
  · simp [hslash]
  · simp [hback]
  · simp [hcolon]

lemma isBareDrive_readable {p : Text} (hp : IsReadable p) : Path.isBareDrive p = false := by
  rw [Path.isBareDrive, hp.trimmed]
  rcases exists_of_isAbsolute hp.located.absolute with ⟨s, q, hs, rfl⟩ | ⟨c, s, q, _, _, rfl⟩
  · split
    · rename_i heq
      rw [← (List.cons.inj heq).1]
      rcases hs with rfl | rfl <;> rfl
    · rfl
  · rfl

lemma position_ofNat {n : Nat} (hpos : 1 ≤ n) (hlt : n < 10 ^ Text.maxDigits) :
    position (some (Text.ofNat n)) = n := by
  have hlen := Text.length_ofNat_le (k := Text.maxDigits) (by decide) hlt
  simp only [position]
  rw [if_neg (Nat.not_lt_of_le hlen), Text.digitsValue_ofNat, Nat.max_eq_right hpos]

lemma readLine_rendered {cwd workingDir line : Text} {r : Diagnostic} (hp : IsReadable r.file)
    (hr : IsRead cwd workingDir line r) (hfeed : '\n' ∉ line) :
    readLine cwd workingDir (rendered .plain r.file r) = .diagnostic r := by
  obtain ⟨rest, hrest, hstrip⟩ := exists_strip_rendered hp hr.trimmed
  have hchain : isChainLine (rendered .plain r.file r) = false := by
    rw [rendered_plain, isChainLine_readable hp]
  have hsplit := split?_readable hp (tail?_place hrest fun h => hfeed (hr.chars _ h))
  have hfile : Path.resolve cwd workingDir r.file = r.file := by
    obtain ⟨q, hq⟩ := hr.file
    have hlocated := hp.located
    have htrimmed := hp.trimmed
    rw [hq] at hlocated htrimmed ⊢
    exact Path.resolve_resolve hlocated htrimmed
  simp only [readLine, hchain, hstrip, hsplit, hp.trimmed, isBareDrive_readable hp, hp.ne_nil, hfile,
    hr.trimmed, position_ofNat hr.line_pos hr.line_lt, position_ofNat hr.column_pos hr.column_lt,
    ← hr.code]
  simp

end Diagnostic

end SketchBuild
