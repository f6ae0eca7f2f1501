import SketchBuild.Proofs.Diagnostic.Cut

namespace SketchBuild.Diagnostic

structure IsOption (message before name : Text) : Prop where
  text : message = before ++ ("[-W" ++ (name ++ [']']))
  ne_nil : name ≠ []
  inside : ∀ c ∈ name, c ≠ ']' ∧ Text.isBlank c = false

/-- The name in the final `[-W…]` that starts first, if there is one. -/
structure IsCode (message : Text) (code : Option Text) : Prop where
  first : ∀ name, code = some name → ∃ before, IsOption message before name ∧
    ∀ before' name', IsOption message before' name' → before.length ≤ before'.length
  none : code = none → ∀ before name, ¬IsOption message before name

section Code

def isNameChar (c : Char) : Bool := c ≠ ']' && !Text.isBlank c

def name? (s : Text) : Option Text := do
  let rest ← Text.dropPrefix? "[-W" s
  let name := rest.takeWhile isNameChar
  let final := rest.dropWhile isNameChar
  if name ≠ [] && final.head? = some ']' && final.tail.all Text.isBlank then some name else none

lemma code?_cons (c : Char) (s : Text) : code? (c :: s) = (name? (c :: s)).or (code? s) := rfl

lemma isOption_cons {c : Char} {s before name : Text} :
    IsOption (c :: s) before name ↔
      (before = [] ∧ IsOption (c :: s) [] name) ∨
        ∃ before', before = c :: before' ∧ IsOption s before' name := by
  constructor
  · intro h
    cases before with
    | nil => exact Or.inl ⟨rfl, h⟩
    | cons a before =>
      obtain ⟨rfl, hs⟩ := List.cons.inj h.text
      exact Or.inr ⟨before, rfl, hs, h.ne_nil, h.inside⟩
  · rintro (⟨rfl, h⟩ | ⟨before, rfl, h⟩)
    · exact h
    · exact ⟨by rw [h.text]; rfl, h.ne_nil, h.inside⟩

lemma isOption_of_name? {s name : Text} (hlast : ∀ c ∈ s.getLast?, Text.isBlank c = false)
    (h : name? s = some name) : IsOption s [] name := by
  obtain ⟨rest, hrest, h⟩ := Option.bind_eq_some_iff.mp h
  have hs := Text.dropPrefix?_eq_some hrest
  simp only [Option.ite_none_right_eq_some, Bool.and_eq_true, decide_eq_true_eq,
    List.all_eq_true, Option.some.injEq] at h
  obtain ⟨⟨⟨hne, hbracket⟩, hblank⟩, rfl⟩ := h
  obtain ⟨behind, hfinal⟩ := List.head?_eq_some_iff.mp hbracket
  rw [hfinal, List.tail_cons] at hblank
  have htext := List.takeWhile_append_dropWhile (p := isNameChar) (l := rest)
  rw [hfinal] at htext
  -- The text ends with no blank, so nothing stands behind the bracket.
  have hbehind : behind = [] := by
    rcases List.eq_nil_or_concat behind with hnil | ⟨blanks, c, rfl⟩
    · exact hnil
    · have hend : s = "[-W" ++ (rest.takeWhile isNameChar ++ ']' :: blanks) ++ [c] := by
        conv_lhs => rw [hs, ← htext]
        simp
      have hc := hlast c (by rw [hend, List.getLast?_concat, Option.mem_def])
      simp [hblank c (by simp)] at hc
  rw [hbehind] at htext
  refine ⟨by rw [List.nil_append, htext, ← hs], hne, ?_⟩
  intro c hc
  simpa [isNameChar] using List.mem_takeWhile_imp hc

lemma name?_of_isOption {s name : Text} (h : IsOption s [] name) : name? s = some name := by
  have hname : ∀ c ∈ name, isNameChar c = true := by
    intro c hc
    simp [isNameChar, h.inside c hc]
  have hbracket : isNameChar ']' = false := by decide
  have htake : (name ++ [']']).takeWhile isNameChar = name := by
    rw [List.takeWhile_append_of_pos hname, List.takeWhile_cons_of_neg (by simp [hbracket]),
      List.append_nil]
  have hdrop : (name ++ [']']).dropWhile isNameChar = [']'] := by
    rw [List.dropWhile_append_of_pos hname, List.dropWhile_cons_of_neg (by simp [hbracket])]
  rw [h.text, List.nil_append, name?, Text.dropPrefix?_append, Option.bind_eq_bind, Option.bind_some]
  simp only [htake, hdrop]
  simp [h.ne_nil]

lemma IsCode.cons {c : Char} {s : Text} {code : Option Text} (h : IsCode s code)
    (hnot : ∀ name, ¬IsOption (c :: s) [] name) : IsCode (c :: s) code where
  first := by
    intro name hcode
    obtain ⟨before, hbefore, hfirst⟩ := h.first name hcode
    refine ⟨c :: before, isOption_cons.mpr (Or.inr ⟨before, rfl, hbefore⟩), ?_⟩
    intro other name' hother
    rcases isOption_cons.mp hother with ⟨_, hhere⟩ | ⟨other, rfl, hlater⟩
    · exact (hnot name' hhere).elim
    · exact Nat.succ_le_succ (hfirst other name' hlater)
  none := by
    intro hcode before name hbefore
    rcases isOption_cons.mp hbefore with ⟨_, hhere⟩ | ⟨before, rfl, hlater⟩
    · exact hnot name hhere
    · exact h.none hcode before name hlater

lemma isCode_code? {message : Text} (hlast : ∀ c ∈ message.getLast?, Text.isBlank c = false) :
    IsCode message (code? message) := by
  induction message with
  | nil => exact ⟨by simp [code?], fun _ before name h => by simpa using h.text⟩
  | cons c s ih =>
    rw [code?_cons]
    cases hname : name? (c :: s) with
    | some name =>
      refine ⟨?_, by simp⟩
      intro name' hname'
      obtain rfl := Option.some.inj hname'
      exact ⟨[], isOption_of_name? hlast hname, fun _ _ _ => Nat.zero_le _⟩
    | none =>
      rw [Option.none_or]
      have hs : ∀ a ∈ s.getLast?, Text.isBlank a = false := by
        intro a ha
        apply hlast
        cases s with
        | nil => simp at ha
        | cons b s => rwa [List.getLast?_cons_cons]
      refine (ih hs).cons ?_
      intro name h
      simp [name?_of_isOption h] at hname

end Code

/-- The number that digits spell, one where they are missing, spell zero or are too many. -/
inductive IsPosition : Option Text → Nat → Prop
  | missing : IsPosition none 1
  | oversized {digits : Text} (h : 4300 < digits.length) : IsPosition (some digits) 1
  | zero {digits : Text} (h : Text.Spells digits 0) : IsPosition (some digits) 1
  | read {digits : Text} {n : Nat} (hlength : digits.length ≤ 4300) (h : Text.Spells digits n)
      (hpos : 0 < n) : IsPosition (some digits) n

/-- What is needed of a cut that tells of a diagnostic: a severity other than that of a note, and a path
that is not empty, no drive, and looks like a file where no line number says so. -/
structure IsAccepted (path : Text) (t : Tail) : Prop where
  severity : t.severity ≠ none
  ne_nil : Text.strip path ≠ []
  drive : ∀ c : Char, c.isAlpha = true → Text.strip path ≠ [c, ':']
  file : t.line ≠ none ∨ '/' ∈ path ∨ '\\' ∈ path ∨ Path.hasExtension path = true

lemma isAccepted_trimmed {path : Text} {t : Tail} : IsAccepted path t.trimmed ↔ IsAccepted path t :=
  ⟨fun h => ⟨h.severity, h.ne_nil, h.drive, h.file⟩,
    fun h => ⟨h.severity, h.ne_nil, h.drive, h.file⟩⟩

structure Reports (cwd workingDir path : Text) (t : Tail) (r : Diagnostic) : Prop where
  severity : t.severity = some r.severity
  file : r.file = Path.resolve cwd workingDir (Text.strip path)
  line : IsPosition t.line r.line
  column : IsPosition t.column r.column
  message : r.message = Text.strip t.message
  code : IsCode r.message r.code

lemma isPosition_position {number : Option Text} (h : IsNumber number) :
    IsPosition number (position number) := by
  cases number with
  | none => exact .missing
  | some digits =>
    have hspells : Text.Spells digits (Text.digitsValue digits) :=
      Text.spells_iff.mpr ⟨(h digits rfl).2, rfl⟩
    simp only [position]
    split
    · rename_i hlong
      exact .oversized hlong
    · rename_i hlong
      rcases Nat.eq_zero_or_pos (Text.digitsValue digits) with hzero | hpos
      · rw [hzero] at hspells ⊢
        exact .zero hspells
      · rw [Nat.max_eq_right hpos]
        exact .read (Nat.le_of_not_lt hlong) hspells hpos

lemma isBareDrive_eq_false_iff {path : Text} :
    Path.isBareDrive path = false ↔ ∀ c : Char, c.isAlpha = true → Text.strip path ≠ [c, ':'] := by
  rw [Path.isBareDrive]
  constructor
  · intro h c hc heq
    rw [heq] at h
    simp [hc] at h
  · intro h
    split
    · rename_i c heq
      by_contra hc
      exact h c (by simpa using hc) heq
    · rfl

lemma looksLikeFile_strip {path : Text} (hhead : ∀ c ∈ path.head?, Text.isBlank c = false) :
    looksLikeFile (Text.strip path) = true ↔
      '/' ∈ path ∨ '\\' ∈ path ∨ Path.hasExtension path = true := by
  obtain ⟨blanks, hblanks, heq⟩ := Text.exists_blanks_stripRight path
  have hslash : '/' ∉ blanks := Text.not_mem_blanks hblanks (by decide)
  have hback : '\\' ∉ blanks := Text.not_mem_blanks hblanks (by decide)
  have hdot : '.' ∉ blanks := Text.not_mem_blanks hblanks (by decide)
  have hextension : Path.hasExtension path = Path.hasExtension (Text.stripRight path) := by
    conv_lhs => rw [heq, Path.hasExtension_append hslash hdot]
  have hmem : ∀ c ∉ blanks, (c ∈ path ↔ c ∈ Text.stripRight path) := by
    intro c hc
    conv_lhs => rw [heq, List.mem_append]
    simp [hc]
  rw [Text.strip, Text.stripLeft_eq_self hhead, hextension, hmem _ hslash, hmem _ hback, looksLikeFile]
  simp [or_assoc]

lemma tellsFile_iff {path : Text} (number : Option Text)
    (hhead : ∀ c ∈ path.head?, Text.isBlank c = false) :
    (number.isNone && !looksLikeFile (Text.strip path)) = false ↔
      number ≠ none ∨ '/' ∈ path ∨ '\\' ∈ path ∨ Path.hasExtension path = true := by
  rw [← looksLikeFile_strip hhead]
  cases number <;> simp

section Line

variable {cwd workingDir line path : Text} {t : Tail} {r : Diagnostic}

lemma reports_of_readLine (h : readLine cwd workingDir line = .diagnostic r)
    (hsplit : split? (Text.strip line) = some (path, t)) (hline : IsNumber t.line)
    (hcolumn : IsNumber t.column)
    (hhead : ∀ c ∈ path.head?, Text.isBlank c = false) :
    isChainLine line = false ∧ IsAccepted path t ∧ Reports cwd workingDir path t r := by
  simp only [readLine, hsplit] at h
  split at h
  · simp at h
  · rename_i hchain
    split at h
    · simp at h
    · rename_i severity hseverity
      split at h
      · simp at h
      · rename_i hnamed
        split at h
        · simp at h
        · rename_i hfile
          obtain rfl := Line.diagnostic.inj h
          simp only [Bool.or_eq_true, decide_eq_true_eq, not_or, Bool.not_eq_true] at hnamed
          refine ⟨by simpa using hchain, ⟨by simp [hseverity], hnamed.1, ?_, ?_⟩, ?_⟩
          · have hdrive := isBareDrive_eq_false_iff.mp hnamed.2
            rwa [Text.strip_strip] at hdrive
          · exact (tellsFile_iff t.line hhead).mp (by simpa using hfile)
          · exact {
              severity := hseverity
              file := rfl
              line := isPosition_position hline
              column := isPosition_position hcolumn
              message := rfl
              code := isCode_code? fun _ => Text.not_isBlank_last_strip }

lemma exists_readLine (cwd workingDir : Text) (hchain : isChainLine line = false) (h : IsAccepted path t)
    (hsplit : split? (Text.strip line) = some (path, t))
    (hhead : ∀ c ∈ path.head?, Text.isBlank c = false) :
    ∃ r, readLine cwd workingDir line = .diagnostic r := by
  have hdrive : Path.isBareDrive (Text.strip path) = false := by
    rw [isBareDrive_eq_false_iff, Text.strip_strip]
    exact h.drive
  obtain ⟨severity, hseverity⟩ := Option.ne_none_iff_exists'.mp h.severity
  have hfile := (tellsFile_iff t.line hhead).mpr h.file
  simp only [readLine, hchain, hsplit, hseverity, h.ne_nil, hdrive, hfile]
  simp

lemma isChainLine_eq_false_iff :
    isChainLine line = false ↔ ¬("In file included from" : Text) <+: Text.stripLeft line ∧
      ¬("from " : Text) <+: Text.stripLeft line := by
  simp [isChainLine, chainWords, ← Bool.not_eq_true, List.isPrefixOf_iff_prefix]

lemma IsFirstCut.not_isBlank_head (h : IsFirstCut (Text.strip line) path t) :
    ∀ c ∈ path.head?, Text.isBlank c = false := by
  obtain ⟨behind, hs, _⟩ := h.tail
  intro c hc
  apply Text.not_isBlank_head_strip (s := line)
  rwa [hs, List.head?_append_of_ne_nil path h.ne_nil]

lemma reports_of_ofLine? (h : ofLine? cwd workingDir line = some r) (hfeed : '\n' ∉ Text.strip line)
    (hcut : IsFirstCut (Text.strip line) path t) :
    isChainLine line = false ∧ IsAccepted path t ∧ Reports cwd workingDir path t r := by
  obtain ⟨_, _, htail⟩ := hcut.tail
  obtain ⟨hchain, haccepted, hreports⟩ := reports_of_readLine (ofLine?_eq_some_iff.mp h)
    (hcut.split?_eq hfeed) htail.line htail.column hcut.not_isBlank_head
  refine ⟨hchain, isAccepted_trimmed.mp haccepted, { hreports with message := ?_ }⟩
  rw [hreports.message, Tail.trimmed, Text.strip_stripLeft]

lemma exists_isFirstCut_of_ofLine? (h : ofLine? cwd workingDir line = some r)
    (hfeed : '\n' ∉ Text.strip line) : ∃ path t, IsFirstCut (Text.strip line) path t := by
  rw [ofLine?_eq_some_iff, readLine] at h
  split at h
  · simp at h
  · split at h
    · simp at h
    · rename_i path t hsplit
      obtain ⟨raw, hcut, _⟩ := exists_isFirstCut hfeed hsplit
      exact ⟨path, raw, hcut⟩

end Line

/-- A line tells of a diagnostic exactly if it is no part of an include chain and its first cut is
accepted, and the record has what this cut says. -/
theorem ofLine?_firstCut (cwd workingDir : Text) {line : Text} (hfeed : '\n' ∉ line) :
    ((∃ r, ofLine? cwd workingDir line = some r) ↔
        ¬("In file included from" : Text) <+: Text.stripLeft line ∧
        ¬("from " : Text) <+: Text.stripLeft line ∧
        ∃ path t, IsFirstCut (Text.strip line) path t ∧ IsAccepted path t) ∧
      ∀ r path t, ofLine? cwd workingDir line = some r → IsFirstCut (Text.strip line) path t →
        Reports cwd workingDir path t r := by
  have hstrip : '\n' ∉ Text.strip line := fun h => hfeed (Text.mem_of_mem_strip h)
  refine ⟨⟨?_, ?_⟩, ?_⟩
  · rintro ⟨r, hr⟩
    obtain ⟨path, t, hcut⟩ := exists_isFirstCut_of_ofLine? hr hstrip
    obtain ⟨hchain, haccepted, _⟩ := reports_of_ofLine? hr hstrip hcut
    obtain ⟨hincluded, hfrom⟩ := isChainLine_eq_false_iff.mp hchain
    exact ⟨hincluded, hfrom, path, t, hcut, haccepted⟩
  · rintro ⟨hincluded, hfrom, path, t, hcut, haccepted⟩
    have hchain := isChainLine_eq_false_iff.mpr ⟨hincluded, hfrom⟩
    obtain ⟨r, hr⟩ := exists_readLine cwd workingDir hchain (isAccepted_trimmed.mpr haccepted)
      (hcut.split?_eq hstrip) hcut.not_isBlank_head
    exact ⟨r, ofLine?_eq_some_iff.mpr hr⟩
  · intro r path t hr hcut
    exact (reports_of_ofLine? hr hstrip hcut).2.2

theorem ofLine?_firstCut_sample :
    let line : Text := "  C:/q/d.c:7:x:042:\u0665: error: y: warning: [-Wa] z [-Wb]\t"
    let r : Diagnostic := {
      severity := .error
      message := "y: warning: [-Wa] z [-Wb]"
      file := "C:/q/d.c:7:x"
      line := 42
      column := 5
      code := some "b" }
    '\n' ∉ line ∧ ofLine? "/" "/w" line = some r ∧
      ∃ t : Tail, t.line = some ("042" : Text) ∧ t.column = some ("\u0665" : Text) ∧
        IsFirstCut (Text.strip line) "C:/q/d.c:7:x" t ∧ IsAccepted "C:/q/d.c:7:x" t ∧
        Reports "/" "/w" "C:/q/d.c:7:x" t r := by
  intro line r
  have hfeed : '\n' ∉ line := by decide
  have hstrip : '\n' ∉ Text.strip line := by decide
  have hread : ofLine? "/" "/w" line = some r := by decide
  have hsplit : split? (Text.strip line) = some (("C:/q/d.c:7:x" : Text), {
      line := some ("042" : Text)
      column := some ("\u0665" : Text)
      severity := some .error
      message := "y: warning: [-Wa] z [-Wb]" }) := by decide
  obtain ⟨hsome, hreports⟩ := ofLine?_firstCut "/" "/w" hfeed
  obtain ⟨_, _, path, t, hcut, haccepted⟩ := hsome.mp ⟨r, hread⟩
  obtain ⟨rfl, ht⟩ := Prod.mk.inj (Option.some.inj ((hcut.split?_eq hstrip).symm.trans hsplit))
  exact ⟨hfeed, hread, t, congrArg Tail.line ht, congrArg Tail.column ht, hcut, haccepted,
    hreports r _ t hread hcut⟩

end SketchBuild.Diagnostic
