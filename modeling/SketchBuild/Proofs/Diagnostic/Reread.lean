import SketchBuild.Proofs.Diagnostic.Groups
import SketchBuild.Proofs.Diagnostic.Printed

namespace SketchBuild.Diagnostic

def endsColors (c : Char) : Bool := c ≠ '[' && c ≠ '\x1b' && !isParameter c && !c.isAlpha

lemma dropColors_append {c : Char} (hc : endsColors c = true) (s rest : Text) (mode : EscapeMode) :
    dropColors mode (s ++ c :: rest) = dropColors mode s ++ c :: dropColors .plain rest := by
  simp only [endsColors, Bool.and_eq_true, decide_eq_true_eq, Bool.not_eq_true'] at hc
  obtain ⟨⟨⟨hbracket, hescape⟩, hparameter⟩, hletter⟩ := hc
  induction s generalizing mode with
  | nil => cases mode <;> simp [dropColors, hbracket, hescape, hparameter, hletter]
  | cons a s ih =>
    cases mode with
    | plain =>
      simp only [List.cons_append, dropColors, ih]
      split <;> simp
    | escape =>
      simp only [List.cons_append, dropColors, ih]
      split
      · rfl
      · split <;> simp
    | sequence held =>
      simp only [List.cons_append, dropColors, ih]
      split
      · rfl
      · split
        · rfl
        · split <;> simp

lemma mem_intercalate {sep c : Char} {ls : List Text} (h : c ∈ [sep].intercalate ls) :
    c = sep ∨ ∃ l ∈ ls, c ∈ l := by
  induction ls with
  | nil => simp at h
  | cons l ls ih =>
    cases ls with
    | nil => exact Or.inr ⟨l, by simp, by simpa using h⟩
    | cons m ls =>
      rw [List.intercalate_cons_cons, List.append_assoc] at h
      rcases List.mem_append.mp h with h | h
      · exact Or.inr ⟨l, by simp, h⟩
      · rcases List.mem_cons.mp h with h | h
        · exact Or.inl h
        · rcases ih h with h | ⟨k, hk, hc⟩
          · exact Or.inl h
          · exact Or.inr ⟨k, List.mem_cons_of_mem l hk, hc⟩

structure IsKept (line : Text) : Prop where
  feed : '\n' ∉ line
  carriage : '\r' ∉ line
  colors : dropColors .plain line = line

lemma dropColors_intercalate {ls : List Text} (h : ∀ l ∈ ls, dropColors .plain l = l) :
    dropColors .plain (['\n'].intercalate ls) = ['\n'].intercalate ls := by
  induction ls with
  | nil => rfl
  | cons l ls ih =>
    have hl := h l (by simp)
    cases ls with
    | nil => simpa using hl
    | cons m ls =>
      rw [List.intercalate_cons_cons, List.append_assoc, List.singleton_append,
        dropColors_append (by decide), hl, ih fun k hk => h k (by simp [hk])]

lemma outputLines_intercalate {ls : List Text} (hne : ls ≠ []) (h : ∀ l ∈ ls, IsKept l) :
    outputLines (['\n'].intercalate ls) = ls := by
  have hreturn : '\r' ∉ ['\n'].intercalate ls := by
    intro hc
    rcases mem_intercalate hc with hc | ⟨l, hl, hc⟩
    · simp at hc
    · exact (h l hl).carriage hc
  rw [outputLines, Text.unifyNewlines_self hreturn, dropColors_intercalate fun l hl => (h l hl).colors,
    Text.lines, Path.pieces_intercalate '\n' ls hne fun l hl => (h l hl).feed]

def marks : Text := [':', '\n', '\r', '\x1b']

lemma mem_marks {c : Char} (hc : c ∈ marks) : c = ':' ∨ c = '\n' ∨ c = '\r' ∨ c = '\x1b' := by
  simpa [marks] using hc

lemma not_mem_ofNat {c : Char} (hc : c ∈ marks) (n : Nat) : c ∉ Text.ofNat n := by
  have hdigit : Text.isDigit c = false := by
    rcases mem_marks hc with rfl | rfl | rfl | rfl <;> rfl
  intro h
  rw [Text.isDigit_of_mem_ofNat h] at hdigit
  simp at hdigit

lemma not_mem_summary {c : Char} (hc : c ∈ marks) (s : Scan) : c ∉ s.summary .plain := by
  have hwords : ∀ w ∈ ([" error(s), ", " warning(s) in ", " file(s)", " (",
      " outside the project hidden)"] : List Text), c ∉ w := by
    rcases mem_marks hc with rfl | rfl | rfl | rfl <;> decide
  have hdropped : c ∉ (if s.dropped = 0 then [] else Palette.plain.colored
      (" (" ++ Text.ofNat s.dropped ++ " outside the project hidden)") Palette.plain.dim []) := by
    split
    · simp
    · have hdim : Palette.plain.dim = [] := rfl
      rw [hdim, colored_plain, List.mem_append, List.mem_append, not_or, not_or]
      exact ⟨⟨hwords _ (by simp), not_mem_ofNat hc _⟩, hwords _ (by simp)⟩
  have hnumber := not_mem_ofNat hc
  rw [Scan.summary]
  simp only [List.mem_append, not_or]
  exact ⟨⟨⟨⟨⟨⟨hnumber _, hwords _ (by simp)⟩, hnumber _⟩, hwords _ (by simp)⟩, hnumber _⟩,
    hwords _ (by simp)⟩, hdropped⟩

lemma isKept_summary (s : Scan) : IsKept (s.summary .plain) where
  feed := not_mem_summary (by decide) s
  carriage := not_mem_summary (by decide) s
  colors := dropColors_plain_self (not_mem_summary (by decide) s)

lemma split?_eq_none {s : Text} (h : ':' ∉ s) : split? s = none := by
  induction s with
  | nil => rfl
  | cons c s ih =>
    have hs : ':' ∉ s := fun hs => h (by simp [hs])
    rw [split?, ih hs]
    split
    · rfl
    · split
      · simp at hs
      · rfl

lemma ofLine?_summary (cwd workingDir : Text) (s : Scan) :
    ofLine? cwd workingDir (s.summary .plain) = none := by
  have hsplit : split? (Text.strip (s.summary .plain)) = none :=
    split?_eq_none fun h => not_mem_summary (by decide) s (Text.mem_of_mem_strip h)
  have hother : readLine cwd workingDir (s.summary .plain) = .other := by
    rw [readLine, hsplit]
    split <;> rfl
  rw [ofLine?, hother]

lemma not_mem_word {c : Char} (hc : c ∈ marks) (severity : Severity) : c ∉ ' ' :: severity.word := by
  cases severity <;> rcases mem_marks hc with rfl | rfl | rfl | rfl <;> decide

lemma not_mem_place {c : Char} {r : Diagnostic} (hc : c ∈ marks) (hcolon : c ≠ ':')
    (hm : c ∉ r.message) : c ∉ r.place (' ' :: r.message) := by
  have hword := not_mem_word hc r.severity
  simp only [List.mem_cons, not_or] at hword
  simp only [place, List.mem_append, List.mem_cons, not_or]
  exact ⟨not_mem_ofNat hc _, hcolon, not_mem_ofNat hc _, hcolon, hword.1, hword.2, hcolon, hword.1,
    hm⟩

structure IsPrintable (cwd workingDir : Text) (r : Diagnostic) : Prop where
  readable : IsReadable r.file
  isRead : ∃ line, IsRead cwd workingDir line r ∧ '\n' ∉ line ∧ '\r' ∉ line ∧ '\x1b' ∉ line

section Printable

variable {cwd workingDir : Text} {r : Diagnostic} (h : IsPrintable cwd workingDir r)

include h

lemma IsPrintable.not_mem_message :
    '\n' ∉ r.message ∧ '\r' ∉ r.message ∧ '\x1b' ∉ r.message := by
  obtain ⟨line, hr, hfeed, hreturn, hescape⟩ := h.isRead
  exact ⟨fun hc => hfeed (hr.chars _ hc), fun hc => hreturn (hr.chars _ hc),
    fun hc => hescape (hr.chars _ hc)⟩

lemma IsPrintable.isKept : IsKept (rendered .plain r.file r) := by
  obtain ⟨hfeed, hreturn, hescape⟩ := h.not_mem_message
  rw [rendered_plain]
  refine ⟨?_, ?_, ?_⟩
  · have hp := not_mem_place (c := '\n') (by decide) (by decide) hfeed
    simpa using ⟨h.readable.feed, hp⟩
  · have hp := not_mem_place (c := '\r') (by decide) (by decide) hreturn
    simpa using ⟨h.readable.carriage, hp⟩
  · have hp := not_mem_place (c := '\x1b') (by decide) (by decide) hescape
    rw [dropColors_append (by decide), h.readable.colors, dropColors_plain_self hp]

lemma IsPrintable.ofLine? : ofLine? cwd workingDir (rendered .plain r.file r) = some r := by
  obtain ⟨line, hr, hfeed, _, _⟩ := h.isRead
  rw [Diagnostic.ofLine?, readLine_rendered h.readable hr hfeed]

end Printable

lemma IsGrouped.lines {t : Table Text (List Diagnostic)} (h : IsGrouped t) :
    (t.flatMap fun (path, rs) => rs.map (rendered .plain path)) =
      (members t).map fun r => rendered .plain r.file r := by
  rw [members, List.map_flatMap]
  apply List.flatMap_congr
  intro row hrow
  apply List.map_congr_left
  intro r hr
  rw [h.file row hrow r hr]

lemma ofText_text {cwd workingDir : Text} {s : Scan} (hs : IsGrouped s.byFile)
    (h : ∀ r ∈ members s.byFile, IsPrintable cwd workingDir r) :
    ofText cwd workingDir (s.text .plain) = members s.byFile := by
  have hkept : ∀ l ∈ ((members s.byFile).map fun r => rendered .plain r.file r) ++
      [s.summary .plain], IsKept l := by
    intro l hl
    rcases List.mem_append.mp hl with hl | hl
    · obtain ⟨r, hr, rfl⟩ := List.mem_map.mp hl
      exact (h r hr).isKept
    · rw [List.mem_singleton.mp hl]
      exact isKept_summary s
  have hlines : (members s.byFile).filterMap (ofLine? cwd workingDir ∘ fun r => rendered .plain r.file r) =
      members s.byFile := by
    calc _ = (members s.byFile).filterMap some :=
          List.filterMap_congr fun r hr => (h r hr).ofLine?
      _ = members s.byFile := List.filterMap_some
  rw [ofText, Scan.text, hs.lines, outputLines_intercalate (by simp) hkept, List.filterMap_append,
    List.filterMap_map, hlines]
  simp [ofLine?_summary]

lemma scanText_eq (cwd workingDir : Text) (boundary : Path.Boundary) (policy : Policy)
    (text : Text) :
    scanText cwd workingDir boundary policy text =
      .ofList boundary policy (ofText cwd workingDir text) := by
  rw [scanText]
  split
  · rename_i htext
    rw [htext]
    rfl
  · rfl

lemma isPrintable_of_mem {cwd workingDir text : Text} {boundary : Path.Boundary} {policy : Policy}
    (ht : '\x1b' ∉ text)
    (hp : ∀ p ∈ Table.keys (scanText cwd workingDir boundary policy text).byFile, IsReadable p)
    {r : Diagnostic} (hr : r ∈ members (scanText cwd workingDir boundary policy text).byFile) :
    IsPrintable cwd workingDir r := by
  rw [scanText_eq, ofList_eq] at hp hr
  have hread := (List.mem_filter.mp ((members_grouped _).mem_iff.mp hr)).1
  obtain ⟨line, hline, hr'⟩ := exists_isRead hread
  obtain ⟨row, hrow, hmem⟩ := List.mem_flatMap.mp hr
  refine ⟨?_, line, hr', not_mem_outputLines ht hline⟩
  rw [(isGrouped_grouped _).file row hrow r hmem]
  exact hp row.1 (List.mem_map_of_mem hrow)

/-- Printing a scan without colors and scanning what was printed gives the scan again. -/
def IsFixed (cwd workingDir : Text) (boundary : Path.Boundary) (policy : Policy)
    (text : Text) : Prop :=
  (scan cwd workingDir boundary policy
      ((scan cwd workingDir boundary policy text).value.text .plain)).value =
    { (scan cwd workingDir boundary policy text).value with dropped := 0 }

/-- A report is a fixed point of extraction: all its lines are read back, in their order and with all
they say, and its summary is no diagnostic. -/
theorem scan_text (cwd workingDir : Text) (boundary : Path.Boundary) (policy : Policy) (text : Text)
    (ht : '\x1b' ∉ text)
    (hp : ∀ p ∈ Table.keys (scan cwd workingDir boundary policy text).value.byFile, IsReadable p) :
    IsFixed cwd workingDir boundary policy text := by
  have hvalue : ∀ t, (scan cwd workingDir boundary policy t).value =
      scanText cwd workingDir boundary policy t := fun _ => rfl
  have hgrouped : IsGrouped (scanText cwd workingDir boundary policy text).byFile := by
    rw [scanText_eq, ofList_eq]
    exact isGrouped_grouped _
  have htext := ofText_text hgrouped fun r => isPrintable_of_mem ht hp
  rw [IsFixed, hvalue, hvalue, scanText_eq, htext, scanText_eq]
  exact ofList_members boundary policy (ofText cwd workingDir text)

def sampleOutput : Text :=
  "a.c:3:5: error: x: error: y\n/b.c: warning: z\na.c:7: warning: [-Wunused]\nC:\\q\\d.c: error:"

theorem scan_text_sample :
    let s := (scan "/" "/w" ⟨["/w"]⟩ { showsOutside := true } sampleOutput).value
    Table.keys s.byFile = [("/w/a.c" : Text), ("C:/q/d.c" : Text)] ∧ s.errors = 2 ∧ s.warnings = 1 ∧
      s.dropped = 1 ∧ (∀ p ∈ Table.keys s.byFile, IsReadable p) ∧
      IsFixed "/" "/w" ⟨["/w"]⟩ { showsOutside := true } sampleOutput := by
  intro s
  have hkeys : Table.keys s.byFile = [("/w/a.c" : Text), ("C:/q/d.c" : Text)] := by decide
  have hreadable : ∀ p ∈ Table.keys s.byFile, IsReadable p := by
    intro p hp
    rw [hkeys, List.mem_cons, List.mem_singleton] at hp
    rcases hp with rfl | rfl
    · exact ⟨⟨by decide, by decide⟩, by decide, by decide, by decide, ⟨by decide, by decide⟩⟩
    · exact ⟨⟨by decide, by decide⟩, by decide, by decide, by decide, ⟨by decide, by decide⟩⟩
  exact ⟨hkeys, by decide, by decide, by decide, hreadable,
    scan_text _ _ _ _ _ (by decide) hreadable⟩

/-- A text without escapes whose report is read differently, though its paths can be told from what
follows them and the working directory is absolute and normalized. -/
def IsMisread (workingDir : Text) (policy : Policy) (text : Text) : Prop :=
  Path.IsAnchored workingDir ∧ '\x1b' ∉ text ∧
    (∀ p ∈ Table.keys (scan "/" workingDir ⟨["/"]⟩ policy text).value.byFile, IsDelimited p) ∧
    ¬IsFixed "/" workingDir ⟨["/"]⟩ policy text

lemma isMisread_of_keys {workingDir text p : Text} {policy : Policy}
    (hw : Path.IsAnchored workingDir) (ht : '\x1b' ∉ text) (hp : IsDelimited p)
    (hkeys : Table.keys (scan "/" workingDir ⟨["/"]⟩ policy text).value.byFile = [p])
    (hn : ¬IsFixed "/" workingDir ⟨["/"]⟩ policy text) : IsMisread workingDir policy text := by
  refine ⟨hw, ht, ?_, hn⟩
  intro q hq
  rw [hkeys, List.mem_singleton] at hq
  rwa [hq]

theorem isMisread_samples :
    IsMisread "/a\nb" {} "c:1: error: m" ∧
      IsMisread "/a\x1b[mb" {} "c:1: error: m" ∧
      IsMisread "/w" { showsOutside := true } "\\a/../c:1: error: m" := by
  refine ⟨?_, ?_, ?_⟩
  · exact isMisread_of_keys (p := "/a\nb/c") ⟨by decide, by decide⟩ (by decide)
      ⟨by decide, by decide⟩ (by decide) (by unfold IsFixed; decide)
  · exact isMisread_of_keys (p := "/a\x1b[mb/c") ⟨by decide, by decide⟩ (by decide)
      ⟨by decide, by decide⟩ (by decide) (by unfold IsFixed; decide)
  · exact isMisread_of_keys (p := "c") ⟨by decide, by decide⟩ (by decide) ⟨by decide, by decide⟩
      (by decide) (by unfold IsFixed; decide)

end SketchBuild.Diagnostic
