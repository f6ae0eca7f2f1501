import SketchBuild.Proofs.Diagnostic.Reread
import SketchBuild.Proofs.Path.Split

namespace SketchBuild.Diagnostic

def IsColor (s : Text) : Prop :=
  ∃ (parameters : Text) (letter : Char), (∀ c ∈ parameters, isParameter c = true) ∧
    letter.isAlpha = true ∧ s = '\x1b' :: '[' :: (parameters ++ [letter])

/-- A text, and the text with color sequences put in at some places. -/
inductive IsColored : Text → Text → Prop
  | nil : IsColored [] []
  | char (c : Char) {s t : Text} (h : IsColored s t) : IsColored (c :: s) (c :: t)
  | color {e s t : Text} (he : IsColor e) (h : IsColored s t) : IsColored s (e ++ t)

def lineEnds : List Text := ["\n", "\r\n", "\r"]

/-- A text whose lines end in line feeds, and the text with some end for each of its lines. -/
inductive IsEnded : Text → Text → Prop
  | nil : IsEnded [] []
  | char {c : Char} (hc : c ≠ '\n') {s t : Text} (h : IsEnded s t) : IsEnded (c :: s) (c :: t)
  | lineEnd {e : Text} (he : e ∈ lineEnds) {s t : Text} (h : IsEnded s t) :
      IsEnded ('\n' :: s) (e ++ t)

def filledLines (s : Text) : List Text := (Text.lines (dropColors .plain s)).filter (· ≠ [])

/-- A carriage return as a line feed, also one that a line feed follows. -/
def feed (c : Char) : Char := if c = '\r' then '\n' else c

lemma feed_of_ne {c : Char} (hc : c ≠ '\r') : feed c = c := if_neg hc

lemma feed_ne_escape {c : Char} (hc : c ≠ '\x1b') : feed c ≠ '\x1b' := by
  rw [feed]
  split
  · decide
  · exact hc

lemma filledLines_append (s t : Text) :
    filledLines (s ++ '\n' :: t) = filledLines s ++ filledLines t := by
  rw [filledLines, dropColors_append (by decide), Text.lines, Path.pieces_separated,
    List.filter_append]
  rfl

lemma filledLines_feed (t : Text) : filledLines ('\n' :: t) = filledLines t := by
  have happend := filledLines_append [] t
  rwa [List.nil_append] at happend

section Ends

lemma filledLines_unifyNewlines (before s : Text) :
    filledLines (before ++ Text.unifyNewlines s) = filledLines (before ++ s.map feed) := by
  -- A pair of line ends is one line feed on the left and two on the right, with an empty line between.
  fun_induction Text.unifyNewlines s generalizing before with
  | case1 => rfl
  | case2 s ih =>
    have hrest := ih []
    rw [List.nil_append, List.nil_append] at hrest
    have hpair : ('\r' :: '\n' :: s).map feed = '\n' :: '\n' :: s.map feed := rfl
    rw [hpair, filledLines_append, filledLines_append, filledLines_feed, hrest]
  | case3 c s _ ih =>
    rw [List.map_cons, ← feed, List.append_cons, List.append_cons before (feed c) (s.map feed)]
    exact ih (before ++ [feed c])

lemma filledLines_isEnded {s t : Text} (h : IsEnded s t) (hreturn : '\r' ∉ s) (before : Text) :
    filledLines (before ++ t.map feed) = filledLines (before ++ s) := by
  induction h generalizing before with
  | nil => rfl
  | @char c _ s t _ ih =>
    rw [List.mem_cons, not_or] at hreturn
    rw [List.map_cons, feed_of_ne (Ne.symm hreturn.1), List.append_cons,
      List.append_cons before c s, ih hreturn.2]
  | @lineEnd e he s t _ ih =>
    have hrest := ih (fun hmem => hreturn (List.mem_cons_of_mem _ hmem)) []
    rw [List.nil_append, List.nil_append] at hrest
    have hend : e.map feed = ['\n'] ∨ e.map feed = ['\n', '\n'] := by
      revert e
      decide
    rw [List.map_append, filledLines_append, ← hrest]
    rcases hend with hend | hend
    · rw [hend, List.singleton_append, filledLines_append]
    · rw [hend, List.cons_append, List.singleton_append, filledLines_append, filledLines_feed]

lemma not_mem_of_isEnded {c : Char} (hc : ∀ e ∈ lineEnds, c ∉ e) {s t : Text} (h : IsEnded s t)
    (hs : c ∉ s) : c ∉ t := by
  induction h with
  | nil => exact hs
  | char _ _ ih =>
    rw [List.mem_cons, not_or] at hs ⊢
    exact ⟨hs.1, ih hs.2⟩
  | lineEnd he _ ih =>
    rw [List.mem_append, not_or]
    exact ⟨hc _ he, ih fun hmem => hs (List.mem_cons_of_mem _ hmem)⟩

end Ends

section Colors

lemma isParameter_of_isAlpha {c : Char} (h : c.isAlpha = true) : isParameter c = false := by
  have hletter := Path.toNat_of_isAlpha h
  have hdigit : ¬c.isDigit = true := by
    intro hdigit
    have hbounds : 48 ≤ c.toNat ∧ c.toNat ≤ 57 := Char.isDigit_iff_toNat.mp hdigit
    omega
  have hmark : c ≠ ';' ∧ c ≠ '?' := by
    constructor <;>
    · rintro rfl
      revert h
      decide
  simp [isParameter, hdigit, hmark]

lemma IsColor.not_mem_carriage {e : Text} (h : IsColor e) : '\r' ∉ e := by
  obtain ⟨parameters, letter, hp, hl, rfl⟩ := h
  have hparameters : '\r' ∉ parameters := fun hmem => by simpa [isParameter] using hp _ hmem
  have hletter : '\r' ≠ letter := by
    rintro rfl
    revert hl
    decide
  simp [hparameters, hletter]

lemma dropColors_sequence {parameters : Text} (hp : ∀ c ∈ parameters, isParameter c = true)
    {letter : Char} (hl : letter.isAlpha = true) (held rest : Text) :
    dropColors (.sequence held) (parameters ++ letter :: rest) = dropColors .plain rest := by
  induction parameters generalizing held with
  | nil => simp [dropColors, isParameter_of_isAlpha hl, hl]
  | cons c parameters ih =>
    rw [List.cons_append, dropColors, if_pos (hp c (by simp))]
    exact ih (fun a ha => hp a (by simp [ha])) _

lemma IsColor.dropColors {e : Text} (h : IsColor e) (rest : Text) :
    dropColors .plain (e ++ rest) = dropColors .plain rest := by
  obtain ⟨parameters, letter, hp, hl, rfl⟩ := h
  have hsequence := dropColors_sequence hp hl [] rest
  simpa [Diagnostic.dropColors] using hsequence

lemma IsColor.map_feed {e : Text} (h : IsColor e) : e.map feed = e := by
  conv_rhs => rw [← List.map_id e]
  apply List.map_congr_left
  intro c hc
  exact feed_of_ne fun hreturn => h.not_mem_carriage (hreturn ▸ hc)

lemma dropColors_isColored {s t : Text} (h : IsColored s t) (hescape : '\x1b' ∉ s) :
    dropColors .plain (t.map feed) = s.map feed := by
  induction h with
  | nil => rfl
  | char c _ ih =>
    rw [List.mem_cons, not_or] at hescape
    rw [List.map_cons, List.map_cons, dropColors, if_neg (feed_ne_escape (Ne.symm hescape.1)),
      ih hescape.2]
  | color he _ ih => rw [List.map_append, he.map_feed, he.dropColors, ih hescape]

end Colors

section Scan

lemma filter_outputLines {t u v : Text} (hescape : '\x1b' ∉ t) (hreturn : '\r' ∉ t)
    (hends : IsEnded t u) (hcolors : IsColored u v) :
    (outputLines v).filter (· ≠ []) = (outputLines t).filter (· ≠ []) := by
  have hclean : ∀ s : Text, '\x1b' ∉ s → '\x1b' ∉ s.map feed := by
    intro s hs hmem
    obtain ⟨c, hc, hfeed⟩ := List.mem_map.mp hmem
    exact feed_ne_escape (fun h => hs (h ▸ hc)) hfeed
  have hu : '\x1b' ∉ u := not_mem_of_isEnded (by decide) hends hescape
  calc (outputLines v).filter (· ≠ []) = filledLines (v.map feed) := filledLines_unifyNewlines [] v
    _ = filledLines (u.map feed) := by
      rw [filledLines, dropColors_isColored hcolors hu, filledLines,
        dropColors_plain_self (hclean u hu)]
    _ = filledLines t := filledLines_isEnded hends hreturn []
    _ = (outputLines t).filter (· ≠ []) := by
      rw [outputLines, Text.unifyNewlines_self hreturn]
      rfl

lemma ofText_eq_filter (cwd workingDir text : Text) :
    ofText cwd workingDir text =
      ((outputLines text).filter (· ≠ [])).filterMap (ofLine? cwd workingDir) := by
  rw [ofText, List.filterMap_filter]
  apply List.filterMap_congr
  intro line _
  split
  · rfl
  · rename_i hempty
    obtain rfl : line = [] := by simpa using hempty
    rfl

/-- Colors that are put into a text and other ends for its lines change nothing in its scan. -/
theorem scan_of_isColored {t u v : Text} (hescape : '\x1b' ∉ t) (hreturn : '\r' ∉ t)
    (hends : IsEnded t u) (hcolors : IsColored u v) (cwd workingDir : Text)
    (boundary : Path.Boundary) (policy : Policy) :
    (scan cwd workingDir boundary policy v).value = (scan cwd workingDir boundary policy t).value := by
  have hvalue : ∀ s, (scan cwd workingDir boundary policy s).value =
      Scan.ofList boundary policy (ofText cwd workingDir s) := scanText_eq cwd workingDir boundary policy
  rw [hvalue, hvalue, ofText_eq_filter, filter_outputLines hescape hreturn hends hcolors,
    ← ofText_eq_filter]

lemma IsColored.chars (w : Text) {s t : Text} (h : IsColored s t) : IsColored (w ++ s) (w ++ t) := by
  induction w with
  | nil => exact h
  | cons c w ih => exact ih.char c

lemma IsEnded.chars {w : Text} (hw : '\n' ∉ w) {s t : Text} (h : IsEnded s t) :
    IsEnded (w ++ s) (w ++ t) := by
  induction w with
  | nil => exact h
  | cons c w ih =>
    rw [List.mem_cons, not_or] at hw
    exact (ih hw.2).char (Ne.symm hw.1)

theorem scan_of_isColored_sample :
    let t : Text := "a.c:12:3: error: x\n\n/b.c:7: warning: y [-Wa]\n"
    let u : Text := "a.c:12:3: error: x\r\n/b.c:7: warning: y [-Wa]\r\n"
    let v : Text :=
      "\x1b[01;31ma.\x1b[Kc:1\x1b[m2:3: er\x1b[?7hror: x\r\n/b.c:7: warning: y [-W\x1b[0ma]\r\x1b[m\n"
    '\x1b' ∉ t ∧ '\r' ∉ t ∧ IsEnded t u ∧ IsColored u v ∧
      (scan "/" "/w" ⟨["/w", "/b.c"]⟩ {} v).value = (scan "/" "/w" ⟨["/w", "/b.c"]⟩ {} t).value ∧
      (scan "/" "/w" ⟨["/w", "/b.c"]⟩ {} t).value.errors = 1 ∧
      (scan "/" "/w" ⟨["/w", "/b.c"]⟩ {} t).value.warnings = 1 := by
  intro t u v
  have hends : IsEnded t u :=
    .chars (w := "a.c:12:3: error: x") (by decide) (.lineEnd (e := "\r") (by decide)
      (.lineEnd (e := "\n") (by decide) (.chars (w := "/b.c:7: warning: y [-Wa]") (by decide)
        (.lineEnd (e := "\r\n") (by decide) .nil))))
  have hcolor : ∀ parameters : Text, ∀ letter : Char, parameters.all isParameter = true →
      letter.isAlpha = true → IsColor ('\x1b' :: '[' :: (parameters ++ [letter])) := by
    intro parameters letter hp hl
    exact ⟨parameters, letter, List.all_eq_true.mp hp, hl, rfl⟩
  have hcolors : IsColored u v :=
    .color (hcolor "01;31" 'm' (by decide) (by decide)) (.chars "a."
      (.color (hcolor "" 'K' (by decide) (by decide)) (.chars "c:1"
        (.color (hcolor "" 'm' (by decide) (by decide)) (.chars "2:3: er"
          (.color (hcolor "?7" 'h' (by decide) (by decide)) (.chars "ror: x\r\n/b.c:7: warning: y [-W"
            (.color (hcolor "0" 'm' (by decide) (by decide)) (.chars "a]\r"
              (.color (hcolor "" 'm' (by decide) (by decide)) (.chars "\n" .nil)))))))))))
  have hescape : '\x1b' ∉ t := by decide
  have hreturn : '\r' ∉ t := by decide
  exact ⟨hescape, hreturn, hends, hcolors,
    scan_of_isColored hescape hreturn hends hcolors "/" "/w" ⟨["/w", "/b.c"]⟩ {}, by decide, by decide⟩

end Scan

end SketchBuild.Diagnostic
