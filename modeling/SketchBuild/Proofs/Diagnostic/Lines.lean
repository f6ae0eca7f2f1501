import SketchBuild.Proofs.Diagnostic.Noise
import SketchBuild.Proofs.Path.Plain

namespace SketchBuild.Diagnostic

/-- A text, and the text with a line feed for each of its line ends, pairs first. -/
inductive IsUnified : Text → Text → Prop
  | nil : IsUnified [] []
  | pair {s t : Text} (h : IsUnified s t) : IsUnified ('\r' :: '\n' :: s) ('\n' :: t)
  | carriage {s t : Text} (hs : s.head? ≠ some '\n') (h : IsUnified s t) :
      IsUnified ('\r' :: s) ('\n' :: t)
  | char {c : Char} (hc : c ≠ '\r') {s t : Text} (h : IsUnified s t) : IsUnified (c :: s) (c :: t)

/-- A text, and what is left of it without color sequences, each taken out where it starts first. -/
inductive IsUncolored : Text → Text → Prop
  | nil : IsUncolored [] []
  | color {e s t : Text} (he : IsColor e) (h : IsUncolored s t) : IsUncolored (e ++ s) t
  | char {c : Char} {s t : Text} (hc : ∀ e, IsColor e → ¬e <+: c :: s) (h : IsUncolored s t) :
      IsUncolored (c :: s) (c :: t)

structure IsLines (text : Text) (lines : List Text) : Prop where
  ne_nil : lines ≠ []
  feed : ∀ line ∈ lines, '\n' ∉ line
  text : ∃ unified, IsUnified text unified ∧ IsUncolored unified (['\n'].intercalate lines)

lemma isUnified_iff {s t : Text} : IsUnified s t ↔ t = Text.unifyNewlines s := by
  constructor
  · intro h
    induction h with
    | nil => rfl
    | pair _ ih => rw [Text.unifyNewlines, ih]
    | @carriage s t hs _ ih =>
      have hpair : ∀ rest, '\r' = '\r' → s = '\n' :: rest → False := by
        rintro rest _ rfl
        exact hs rfl
      rw [Text.unifyNewlines.eq_3 _ _ hpair, ih, if_pos rfl]
    | @char c hc s t _ ih =>
      have hpair : ∀ rest, c = '\r' → s = '\n' :: rest → False := fun _ h _ => hc h
      rw [Text.unifyNewlines.eq_3 _ _ hpair, ih, if_neg hc]
  · rintro rfl
    fun_induction Text.unifyNewlines s with
    | case1 => exact .nil
    | case2 s ih => exact .pair ih
    | case3 c s hs ih =>
      split
      · rename_i hc
        subst hc
        refine .carriage ?_ ih
        intro hhead
        obtain ⟨rest, rfl⟩ := List.head?_eq_some_iff.mp hhead
        exact hs rest rfl rfl
      · rename_i hc
        exact .char hc ih

section Colors

lemma IsColor.head {e : Text} (h : IsColor e) : ∃ rest, e = '\x1b' :: '[' :: rest := by
  obtain ⟨parameters, letter, _, _, rfl⟩ := h
  exact ⟨_, rfl⟩

lemma IsUncolored.chars {w s t : Text} (hw : '\x1b' ∉ w) (h : IsUncolored s t) :
    IsUncolored (w ++ s) (w ++ t) := by
  induction w with
  | nil => exact h
  | cons c w ih =>
    rw [List.mem_cons, not_or] at hw
    refine .char ?_ (ih hw.2)
    rintro e he hprefix
    obtain ⟨rest, rfl⟩ := he.head
    exact hw.1 (List.cons_prefix_cons.mp hprefix).1

lemma not_prefix_of_stopped {held rest : Text} (hheld : ∀ c ∈ held, isParameter c = true)
    (hrest : ∀ c ∈ rest.head?, isParameter c = false ∧ c.isAlpha = false) {parameters : Text}
    (hp : ∀ c ∈ parameters, isParameter c = true) {letter : Char} (hl : letter.isAlpha = true) :
    ¬parameters ++ [letter] <+: held ++ rest := by
  induction held generalizing parameters with
  | nil =>
    rw [List.nil_append]
    rintro ⟨behind, rfl⟩
    cases parameters with
    | nil => simp [hl] at hrest
    | cons p parameters => simp [hp p] at hrest
  | cons a held ih =>
    cases parameters with
    | nil =>
      intro hprefix
      obtain ⟨rfl, _⟩ := List.cons_prefix_cons.mp hprefix
      simp [isParameter_of_isAlpha hl] at hheld
    | cons p parameters =>
      intro hprefix
      exact ih (fun c hc => hheld c (by simp [hc])) (fun c hc => hp c (by simp [hc]))
        (List.cons_prefix_cons.mp hprefix).2

lemma IsUncolored.stopped {held rest t : Text} (hheld : ∀ c ∈ held, isParameter c = true)
    (hrest : ∀ c ∈ rest.head?, isParameter c = false ∧ c.isAlpha = false)
    (h : IsUncolored rest t) :
    IsUncolored ('\x1b' :: '[' :: (held ++ rest)) ('\x1b' :: '[' :: (held ++ t)) := by
  refine .char ?_ ?_
  · rintro e ⟨parameters, letter, hp, hl, rfl⟩ hprefix
    have hbehind := (List.cons_prefix_cons.mp (List.cons_prefix_cons.mp hprefix).2).2
    exact not_prefix_of_stopped hheld hrest hp hl hbehind
  · have hescape : '\x1b' ∉ '[' :: held := by
      rw [List.mem_cons, not_or]
      exact ⟨by decide, fun hmem => absurd (hheld _ hmem) (by decide)⟩
    exact h.chars hescape

lemma IsUncolored.escape {rest t : Text} (hrest : rest.head? ≠ some '[') (h : IsUncolored rest t) :
    IsUncolored ('\x1b' :: rest) ('\x1b' :: t) := by
  refine .char ?_ h
  rintro e he hprefix
  obtain ⟨more, rfl⟩ := he.head
  obtain ⟨behind, rfl⟩ := (List.cons_prefix_cons.mp hprefix).2
  exact hrest rfl

def EscapeMode.started : EscapeMode → Text
  | .plain => []
  | .escape => ['\x1b']
  | .sequence held => '\x1b' :: '[' :: held

def EscapeMode.held : EscapeMode → Text
  | .sequence held => held
  | _ => []

lemma isUncolored_dropColors (s : Text) (mode : EscapeMode)
    (hheld : ∀ c ∈ mode.held, isParameter c = true) :
    IsUncolored (mode.started ++ s) (dropColors mode s) := by
  induction s generalizing mode with
  | nil =>
    cases mode with
    | plain => exact .nil
    | escape => exact IsUncolored.escape (by simp) .nil
    | sequence held =>
      rw [List.append_nil, dropColors, ← List.append_nil held]
      exact .stopped hheld (by simp) .nil
  | cons c s ih =>
    have hplain : IsUncolored s (dropColors .plain s) := ih .plain (by simp [EscapeMode.held])
    have hescape : IsUncolored ('\x1b' :: s) (dropColors .escape s) :=
      ih .escape (by simp [EscapeMode.held])
    have hchar : c ≠ '\x1b' → IsUncolored (c :: s) (c :: dropColors .plain s) :=
      fun hc => hplain.chars (w := [c]) (by simpa using Ne.symm hc)
    cases mode with
    | plain =>
      rw [dropColors]
      split
      · rename_i hc
        rwa [hc]
      · rename_i hc
        exact hchar hc
    | escape =>
      rw [dropColors]
      split
      · rename_i hc
        rw [hc]
        exact ih (.sequence []) (by simp [EscapeMode.held])
      · rename_i hbracket
        split
        · rename_i hc
          rw [hc]
          exact hescape.escape (by simp)
        · rename_i hc
          exact (hchar hc).escape (by simpa using hbracket)
    | sequence held =>
      have hstop : isParameter c = false → c.isAlpha = false → ∀ {t}, IsUncolored (c :: s) t →
          IsUncolored ('\x1b' :: '[' :: (held ++ c :: s)) ('\x1b' :: '[' :: (held ++ t)) :=
        fun hp hl _ h => .stopped hheld (by simp [hp, hl]) h
      rw [dropColors]
      split
      · rename_i hp
        have hmore := ih (.sequence (held ++ [c])) (by
          intro a ha
          rcases List.mem_append.mp ha with ha | ha
          · exact hheld a ha
          · rwa [List.mem_singleton.mp ha])
        simpa [EscapeMode.started] using hmore
      · rename_i hp
        split
        · rename_i hl
          have hcolor : IsColor ('\x1b' :: '[' :: (held ++ [c])) := ⟨held, c, hheld, hl, rfl⟩
          simpa [EscapeMode.started] using hplain.color hcolor
        · rename_i hl
          split
          · rename_i hc
            subst hc
            exact hstop rfl rfl hescape
          · rename_i hc
            exact hstop (by simpa using hp) (by simpa using hl) (hchar hc)

lemma eq_of_append_eq_append {e e' s s' : Text} (he : IsColor e) (he' : IsColor e')
    (h : e ++ s = e' ++ s') : e = e' := by
  obtain ⟨parameters, letter, hp, hl, rfl⟩ := he
  obtain ⟨parameters', letter', hp', hl', rfl⟩ := he'
  have htake : ∀ {ps : Text} {c : Char} (rest : Text), (∀ a ∈ ps, isParameter a = true) →
      c.isAlpha = true → (ps ++ c :: rest).takeWhile isParameter = ps := by
    intro ps c rest hps hc
    rw [List.takeWhile_append_of_pos hps, List.takeWhile_cons_of_neg (by simp [isParameter_of_isAlpha hc]),
      List.append_nil]
  simp only [List.cons_append, List.append_assoc, List.nil_append, List.cons.injEq, true_and] at h
  have hsame : parameters = parameters' := by
    rw [← htake s hp hl, h, htake s' hp' hl']
  subst hsame
  obtain ⟨rfl, _⟩ := List.cons.inj (List.append_cancel_left h)
  rfl

lemma IsUncolored.unique {s t t' : Text} (h : IsUncolored s t) (h' : IsUncolored s t') : t' = t := by
  induction h generalizing t' with
  | nil =>
    generalize hs : ([] : Text) = s at h'
    cases h' with
    | nil => rfl
    | color he _ =>
      obtain ⟨rest, rfl⟩ := he.head
      simp at hs
    | char => simp at hs
  | @color e s t he _ ih =>
    generalize hs : e ++ s = u at h'
    cases h' with
    | nil =>
      obtain ⟨rest, rfl⟩ := he.head
      simp at hs
    | @color e' s' _ he' h' =>
      obtain rfl := eq_of_append_eq_append he he' hs
      obtain rfl := List.append_cancel_left hs
      exact ih h'
    | char hc => exact (hc e he ⟨s, hs⟩).elim
  | @char c s t hc _ ih =>
    generalize hs : c :: s = u at h'
    cases h' with
    | nil => simp at hs
    | @color e s' _ he =>
      exact (hc e he ⟨s', hs.symm⟩).elim
    | char _ h' =>
      obtain ⟨rfl, rfl⟩ := List.cons.inj hs
      rw [ih h']

lemma isUncolored_iff {s t : Text} : IsUncolored s t ↔ t = dropColors .plain s := by
  constructor
  · intro h
    exact (isUncolored_dropColors s .plain (by simp [EscapeMode.held])).unique h
  · rintro rfl
    exact isUncolored_dropColors s .plain (by simp [EscapeMode.held])

end Colors

lemma isLines_iff {text : Text} {lines : List Text} : IsLines text lines ↔ lines = outputLines text := by
  constructor
  · rintro ⟨hne, hfeed, unified, hunified, hclean⟩
    rw [outputLines, ← isUnified_iff.mp hunified, ← isUncolored_iff.mp hclean, Text.lines,
      Path.pieces_intercalate '\n' lines hne hfeed]
  · rintro rfl
    refine ⟨Path.pieces_ne_nil _ _, Path.not_mem_of_mem_pieces _ _, _, isUnified_iff.mpr rfl, ?_⟩
    rw [outputLines, Text.lines, Path.intercalate_pieces, isUncolored_iff]

end SketchBuild.Diagnostic
