import Mathlib.Tactic.Lemma
import SketchBuild.Command.Words

namespace SketchBuild.Command

def AtBoundary (s : Text) : Prop := ∀ c ∈ s.head?, Text.isBlank c = true

lemma atBoundary_nil : AtBoundary [] := by simp [AtBoundary]

lemma atBoundary_space (s : Text) : AtBoundary (' ' :: s) := by
  simp only [AtBoundary, List.head?_cons, Option.mem_def, Option.some.injEq, forall_eq']
  decide

lemma scan_between_space (s : Text) : scan .between (' ' :: s) = scan .between s := by
  have hb : Text.isBlank ' ' = true := by decide
  simp [scan, hb]

lemma scan_bare_boundary {s : Text} (h : AtBoundary s) :
    scan .bare s = [] :: scan .between s := by
  cases s with
  | nil => rfl
  | cons c s =>
    have hc : Text.isBlank c = true := h c rfl
    simp [scan, hc]

lemma not_quote_of_blank {c : Char} (h : Text.isBlank c = true) : c ≠ '"' ∧ c ≠ '\\' := by
  constructor
  all_goals
    rintro rfl
    revert h
    decide

lemma scan_slashes_boundary {s : Text} (h : AtBoundary s) (n : Nat) :
    scan (.slashes n) s = slashRun n :: scan .between s := by
  cases s with
  | nil => rfl
  | cons c s =>
    have hc : Text.isBlank c = true := h c rfl
    obtain ⟨hq, hs⟩ := not_quote_of_blank hc
    simp [scan, hc, hq, hs]

def IsPlain (c : Char) : Prop := Text.isBlank c = false ∧ c ≠ '"' ∧ c ≠ '\''

lemma slashRun_succ (n : Nat) : slashRun (n + 1) = slashRun n ++ ['\\'] := by
  simp [slashRun, List.replicate_succ']

lemma scan_plain (w s : Text) (hw : ∀ c ∈ w, IsPlain c) (hs : AtBoundary s) :
    scan .bare (w ++ s) = w :: scan .between s ∧
      ∀ n, scan (.slashes n) (w ++ s) = (slashRun n ++ w) :: scan .between s := by
  induction w with
  | nil => simp [scan_bare_boundary hs, scan_slashes_boundary hs]
  | cons c w ih =>
    obtain ⟨hb, hd, hq⟩ := hw c (by simp)
    obtain ⟨ihBare, ihSlashes⟩ := ih fun x hx => hw x (by simp [hx])
    by_cases hc : c = '\\'
    · subst hc
      constructor
      · simp only [List.cons_append, scan, hb, Bool.false_eq_true, if_false, enter, hd, hq, if_true,
          ihSlashes]
        simp [Text.extend, slashRun]
      · intro n
        simp only [List.cons_append, scan, if_true, ihSlashes, slashRun_succ]
        simp
    · constructor
      · simp [scan, hb, enter, hd, hq, hc, ihBare, Text.extend]
      · intro n
        simp [scan, hb, enter, hd, hq, hc, ihBare, Text.extend]

lemma scan_double_escape (w s : Text) (hs : AtBoundary s) :
    scan .double (w.flatMap escape ++ '"' :: s) = w :: scan .between s := by
  induction w with
  | nil => simp [scan, scan_bare_boundary hs]
  | cons c w ih =>
    rw [List.flatMap_cons, List.append_assoc]
    by_cases hd : c = '"'
    · simp [escape, scan, hd, ih, Text.extend]
    · by_cases hc : c = '\\' <;> simp [escape, scan, hd, hc, ih, Text.extend]

lemma isPlain_of_needsQuotes {w : Text} (h : needsQuotes w = false) : ∀ c ∈ w, IsPlain c := by
  intro c hc
  simp only [needsQuotes, Bool.or_eq_false_iff, List.any_eq_false] at h
  have hn := h.2 c hc
  simp only [Bool.or_eq_true, decide_eq_true_eq, not_or, Bool.not_eq_true] at hn
  exact ⟨hn.1.1, hn.1.2, hn.2⟩

lemma scan_between_cons {c : Char} (hc : Text.isBlank c = false) (s : Text) :
    scan .between (c :: s) = scan .bare (c :: s) := by
  simp [scan, hc]

lemma scan_quote (w s : Text) (hs : AtBoundary s) :
    scan .between (quote w ++ s) = w :: scan .between s := by
  by_cases hq : needsQuotes w
  · have hb : Text.isBlank '"' = false := by decide
    simp only [quote, hq, if_true, List.cons_append, List.append_assoc, scan, hb,
      Bool.false_eq_true, if_false, enter, List.nil_append, scan_double_escape w s hs]
    rfl
  · have hp := isPlain_of_needsQuotes (Bool.not_eq_true _ ▸ hq)
    cases w with
    | nil => simp [needsQuotes] at hq
    | cons c w =>
      simp only [quote, hq, Bool.false_eq_true, if_false]
      rw [List.cons_append, scan_between_cons (hp c (by simp)).1, ← List.cons_append]
      exact (scan_plain (c :: w) s hp hs).1

lemma line_cons_cons (v w : Text) (ws : List Text) :
    line (v :: w :: ws) = quote v ++ ' ' :: line (w :: ws) := by
  simp [line, List.intercalate]

lemma scan_line (ws : List Text) (s : Text) (hs : AtBoundary s) :
    scan .between (line ws ++ s) = ws ++ scan .between s := by
  induction ws with
  | nil => rfl
  | cons v ws ih =>
    cases ws with
    | nil => simpa [line, List.intercalate] using scan_quote v s hs
    | cons w ws =>
      rw [line_cons_cons, List.append_assoc, List.cons_append, scan_quote v _ (atBoundary_space _),
        scan_between_space, ih]
      rfl

@[simp] lemma words_line (ws : List Text) : words (line ws) = ws := by
  simpa [words, scan] using scan_line ws [] atBoundary_nil

/-- A command line that goes on behind the words it was written from has these words first. -/
theorem words_line_in_context (ws : List Text) (rest : Text) :
    words (line ws) = ws ∧ words (line ws ++ ' ' :: rest) = ws ++ words rest := by
  refine ⟨words_line ws, ?_⟩
  rw [words, scan_line ws _ (atBoundary_space rest), scan_between_space, words]

end SketchBuild.Command
