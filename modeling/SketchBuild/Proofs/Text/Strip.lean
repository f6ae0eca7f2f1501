import Mathlib.Data.List.DropRight
import Mathlib.Tactic.Lemma
import SketchBuild.Text.Basic

namespace SketchBuild.Text

lemma stripLeft_eq_self {s : Text} (h : ∀ c ∈ s.head?, isBlank c = false) : stripLeft s = s := by
  cases s with
  | nil => rfl
  | cons c s =>
    have hc := h c (by simp)
    rw [stripLeft, List.dropWhile_cons_of_neg (by simp [hc])]

lemma stripRight_eq_self {s : Text} (h : ∀ c ∈ s.getLast?, isBlank c = false) :
    stripRight s = s := by
  have hself : s.rdropWhile isBlank = s := by
    rw [List.rdropWhile_eq_self_iff]
    intro hs
    have hlast := h _ (List.getLast?_eq_some_getLast hs)
    simp [hlast]
  exact hself

lemma strip_eq_self {s : Text} (hhead : ∀ c ∈ s.head?, isBlank c = false)
    (hlast : ∀ c ∈ s.getLast?, isBlank c = false) : strip s = s := by
  rw [strip, stripLeft_eq_self hhead, stripRight_eq_self hlast]

lemma stripLeft_suffix (s : Text) : stripLeft s <:+ s := List.dropWhile_suffix _

lemma stripRight_isPrefix (s : Text) : stripRight s <+: s := List.rdropWhile_prefix isBlank s

lemma mem_of_mem_strip {c : Char} {s : Text} (h : c ∈ strip s) : c ∈ s :=
  (stripLeft_suffix s).mem ((stripRight_isPrefix (stripLeft s)).mem h)

lemma not_isBlank_head_stripLeft {s : Text} {c : Char} (h : c ∈ (stripLeft s).head?) :
    isBlank c = false := by
  have hne : stripLeft s ≠ [] := by
    intro hs
    simp [hs] at h
  have hc := List.head_dropWhile_not isBlank hne
  rw [Option.mem_def, List.head?_eq_some_head hne] at h
  rwa [← Option.some.inj h]

lemma not_isBlank_head_strip {s : Text} {c : Char} (h : c ∈ (strip s).head?) :
    isBlank c = false := by
  obtain ⟨t, ht⟩ := stripRight_isPrefix (stripLeft s)
  apply not_isBlank_head_stripLeft (s := s)
  rw [← ht, List.head?_append]
  rw [Option.mem_def, strip] at h
  simp [h]

lemma not_isBlank_last_strip {s : Text} {c : Char} (h : c ∈ (strip s).getLast?) :
    isBlank c = false := by
  have hne : (stripLeft s).rdropWhile isBlank ≠ [] := by
    intro hs
    rw [strip, stripRight, ← List.rdropWhile, hs] at h
    simp at h
  have hc := List.rdropWhile_last_not isBlank (stripLeft s) hne
  rw [Option.mem_def, strip, stripRight, ← List.rdropWhile, List.getLast?_eq_some_getLast hne] at h
  rw [← Option.some.inj h]
  simpa using hc

lemma strip_eq_self_iff {s : Text} :
    strip s = s ↔
      (∀ c ∈ s.head?, isBlank c = false) ∧ ∀ c ∈ s.getLast?, isBlank c = false := by
  constructor
  · intro h
    rw [← h]
    exact ⟨fun _ => not_isBlank_head_strip, fun _ => not_isBlank_last_strip⟩
  · rintro ⟨hhead, hlast⟩
    exact strip_eq_self hhead hlast

lemma strip_strip (s : Text) : strip (strip s) = strip s :=
  strip_eq_self (fun _ => not_isBlank_head_strip) fun _ => not_isBlank_last_strip

lemma strip_concat_blank {s : Text} {c : Char} (hc : isBlank c = true)
    (hhead : ∀ a ∈ s.head?, isBlank a = false) (hlast : ∀ a ∈ s.getLast?, isBlank a = false)
    (hs : s ≠ []) : strip (s ++ [c]) = s := by
  have hleft : stripLeft (s ++ [c]) = s ++ [c] := by
    apply stripLeft_eq_self
    rwa [List.head?_append_of_ne_nil s hs]
  have hright : stripRight (s ++ [c]) = stripRight s := List.rdropWhile_concat_pos isBlank s c hc
  rw [strip, hleft, hright, stripRight_eq_self hlast]

lemma exists_blanks_stripLeft (s : Text) :
    ∃ blanks : Text, (∀ c ∈ blanks, isBlank c = true) ∧ s = blanks ++ stripLeft s :=
  ⟨s.takeWhile isBlank, fun _ hc => List.mem_takeWhile_imp hc,
    List.takeWhile_append_dropWhile.symm⟩

lemma exists_blanks_stripRight (s : Text) :
    ∃ blanks : Text, (∀ c ∈ blanks, isBlank c = true) ∧ s = stripRight s ++ blanks :=
  ⟨s.rtakeWhile isBlank, fun _ hc => List.mem_rtakeWhile_imp hc,
    (List.rdropWhile_append_rtakeWhile).symm⟩

lemma strip_stripLeft (s : Text) : strip (stripLeft s) = strip s := by
  rw [strip, stripLeft_eq_self fun _ => not_isBlank_head_stripLeft, ← strip]

lemma not_mem_blanks {blanks : Text} (h : ∀ c ∈ blanks, isBlank c = true) {c : Char}
    (hc : isBlank c = false) : c ∉ blanks := by
  intro hmem
  simp [h c hmem] at hc

lemma dropPrefix?_eq_some {p s t : Text} (h : dropPrefix? p s = some t) : s = p ++ t := by
  induction p generalizing s with
  | nil => simpa [dropPrefix?] using h
  | cons a p ih =>
    cases s with
    | nil => simp [dropPrefix?] at h
    | cons b s =>
      simp only [dropPrefix?] at h
      split at h
      · rename_i hab
        rw [hab, List.cons_append, ih h]
      · simp at h

lemma dropPrefix?_append (p t : Text) : dropPrefix? p (p ++ t) = some t := by
  induction p with
  | nil => rfl
  | cons a p ih => rw [List.cons_append, dropPrefix?, if_pos rfl, ih]

lemma dropPrefix?_of_not_prefix {p s : Text} (h : ¬p <+: s) : dropPrefix? p s = none := by
  cases hd : dropPrefix? p s with
  | none => rfl
  | some t => exact (h ⟨t, (dropPrefix?_eq_some hd).symm⟩).elim

end SketchBuild.Text
