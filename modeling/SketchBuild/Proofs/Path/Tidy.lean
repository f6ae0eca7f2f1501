import SketchBuild.Path.Resolve
import SketchBuild.Proofs.Text.Strip

namespace SketchBuild.Path

lemma head_collapse (s : Text) : (collapse s).head? = s.head? := by
  fun_induction collapse s with
  | case1 => rfl
  | case2 c s h ih =>
    simp only [Bool.and_eq_true, decide_eq_true_eq] at h
    rw [ih, h.2, h.1]
    rfl
  | case3 => rfl

lemma collapse_collapse (s : Text) : collapse (collapse s) = collapse s := by
  fun_induction collapse s with
  | case1 => rfl
  | case2 c s h ih => exact ih
  | case3 c s h ih =>
    rw [collapse, head_collapse, if_neg h, ih]

lemma collapse_append {c s : Text} (hc : '/' ∉ c) : collapse (c ++ s) = c ++ collapse s := by
  induction c with
  | nil => rfl
  | cons a c ih =>
    have ha : a ≠ '/' := by
      rintro rfl
      simp at hc
    rw [List.cons_append, collapse, if_neg (by simp [ha]), ih fun h => hc (by simp [h])]
    rfl

lemma mem_of_mem_collapse {c : Char} {s : Text} (h : c ∈ collapse s) : c ∈ s := by
  fun_induction collapse s with
  | case1 => exact h
  | case2 a s hs ih => exact List.mem_cons_of_mem a (ih h)
  | case3 a s hs ih =>
    rcases List.mem_cons.mp h with rfl | h
    · exact List.mem_cons_self
    · exact List.mem_cons_of_mem a (ih h)

lemma length_collapse_le (s : Text) : (collapse s).length ≤ s.length := by
  fun_induction collapse s with
  | case1 => exact le_rfl
  | case2 c s h ih => exact ih.trans (Nat.le_succ _)
  | case3 c s h ih => exact Nat.succ_le_succ ih

lemma getLast?_collapse (s : Text) : (collapse s).getLast? = s.getLast? := by
  fun_induction collapse s with
  | case1 => rfl
  | case2 c s h ih =>
    have hne : s ≠ [] := by
      rintro rfl
      simp at h
    rw [ih, List.getLast?_cons_of_ne_nil hne]
  | case3 c s h ih => rw [List.getLast?_cons, List.getLast?_cons, ih]

lemma not_infix_collapse (s : Text) : ¬['/', '/'] <:+: collapse s := by
  fun_induction collapse s with
  | case1 => simp
  | case2 c s h ih => exact ih
  | case3 c s h ih =>
    rw [List.infix_cons_iff, not_or]
    refine ⟨?_, ih⟩
    intro hprefix
    obtain ⟨rfl, hnext⟩ := List.cons_prefix_cons.mp hprefix
    rw [List.singleton_prefix_iff_head?_eq_some, head_collapse] at hnext
    simp [hnext] at h

variable {p s : Text}

def unquoted (p : Text) : Text :=
  ((Text.strip p).filter (· ≠ '"')).map fun c => if c = '\\' then '/' else c

lemma mem_unquoted {c : Char} (h : c ∈ unquoted p) : c ≠ '\\' ∧ c ≠ '"' := by
  obtain ⟨a, ha, rfl⟩ := List.mem_map.mp h
  have hquote : a ≠ '"' := by simpa using (List.mem_filter.mp ha).2
  split
  · decide
  · rename_i hback
    exact ⟨hback, hquote⟩

lemma unquoted_of_not_quote (h : '"' ∉ p) :
    unquoted p = (Text.strip p).map fun c => if c = '\\' then '/' else c := by
  rw [unquoted, List.filter_eq_self.mpr]
  intro c hc
  rw [decide_eq_true_eq]
  rintro rfl
  exact h (Text.mem_of_mem_strip hc)

lemma unquoted_eq_self (hback : '\\' ∉ p) (hquote : '"' ∉ p) (hstrip : Text.strip p = p) :
    unquoted p = p := by
  rw [unquoted_of_not_quote hquote, hstrip]
  refine (List.map_congr_left fun c hc => ?_).trans p.map_id
  rw [if_neg, id]
  rintro rfl
  exact hback hc

lemma strip_unquoted (h : '"' ∉ p) : Text.strip (unquoted p) = unquoted p := by
  -- No quote is taken out, so the ends are those of the stripped path.
  have hslash : ∀ c, Text.isBlank c = false →
      Text.isBlank (if c = '\\' then '/' else c) = false := by
    intro c hc
    split
    · decide
    · exact hc
  rw [unquoted_of_not_quote h, Text.strip_eq_self_iff, List.head?_map, List.getLast?_map]
  constructor
  · intro c hc
    obtain ⟨a, ha, rfl⟩ := Option.map_eq_some_iff.mp hc
    exact hslash a (Text.not_isBlank_head_strip ha)
  · intro c hc
    obtain ⟨a, ha, rfl⟩ := Option.map_eq_some_iff.mp hc
    exact hslash a (Text.not_isBlank_last_strip ha)

lemma tidy_of_share (h : unquoted p = '/' :: '/' :: s) : tidy p = '/' :: '/' :: collapse s := by
  rw [tidy, ← unquoted, h]
  rfl

lemma tidy_of_not_share (h : ¬['/', '/'] <+: unquoted p) : tidy p = collapse (unquoted p) := by
  rw [tidy, ← unquoted]
  split
  · rename_i s hs
    exact (h ⟨s, hs.symm⟩).elim
  · rfl

lemma tidy_cases (p : Text) :
    (∃ s, unquoted p = '/' :: '/' :: s ∧ tidy p = '/' :: '/' :: collapse s) ∨
      (¬['/', '/'] <+: unquoted p ∧ tidy p = collapse (unquoted p)) := by
  by_cases h : ['/', '/'] <+: unquoted p
  · obtain ⟨s, hs⟩ := h
    exact Or.inl ⟨s, hs.symm, tidy_of_share hs.symm⟩
  · exact Or.inr ⟨h, tidy_of_not_share h⟩

lemma mem_tidy {c : Char} (h : c ∈ tidy p) : c ≠ '\\' ∧ c ≠ '"' := by
  apply mem_unquoted (p := p)
  rcases tidy_cases p with ⟨s, hs, htidy⟩ | ⟨_, htidy⟩
  · rw [htidy] at h
    rw [hs]
    simp only [List.mem_cons] at h ⊢
    exact h.imp_right fun h => h.imp_right mem_of_mem_collapse
  · rw [htidy] at h
    exact mem_of_mem_collapse h

lemma not_back_mem_tidy (p : Text) : '\\' ∉ tidy p := fun h => (mem_tidy h).1 rfl

lemma not_quote_mem_tidy (p : Text) : '"' ∉ tidy p := fun h => (mem_tidy h).2 rfl

lemma collapse_tidy (h : (tidy p).head? ≠ some '/') : collapse (tidy p) = tidy p := by
  rcases tidy_cases p with ⟨s, _, htidy⟩ | ⟨_, htidy⟩
  · simp [htidy] at h
  · rw [htidy, collapse_collapse]

lemma length_tidy_le (p : Text) : (tidy p).length ≤ (Text.strip p).length := by
  have hle : (unquoted p).length ≤ (Text.strip p).length := by
    rw [unquoted, List.length_map]
    exact List.length_filter_le _ _
  rcases tidy_cases p with ⟨s, hs, htidy⟩ | ⟨_, htidy⟩
  · rw [hs] at hle
    rw [htidy]
    exact (Nat.add_le_add_right (length_collapse_le s) 2).trans hle
  · rw [htidy]
    exact (length_collapse_le _).trans hle

lemma head?_tidy (p : Text) : (tidy p).head? = (unquoted p).head? := by
  rcases tidy_cases p with ⟨s, hs, htidy⟩ | ⟨_, htidy⟩
  · rw [hs, htidy]
    rfl
  · rw [htidy, head_collapse]

lemma getLast?_tidy (p : Text) : (tidy p).getLast? = (unquoted p).getLast? := by
  rcases tidy_cases p with ⟨s, hs, htidy⟩ | ⟨_, htidy⟩
  · simp only [hs, htidy, List.getLast?_cons, getLast?_collapse]
  · rw [htidy, getLast?_collapse]

lemma strip_tidy_iff : Text.strip (tidy p) = tidy p ↔ Text.strip (unquoted p) = unquoted p := by
  rw [Text.strip_eq_self_iff, Text.strip_eq_self_iff, head?_tidy, getLast?_tidy]

lemma not_isBlank_last_tidy (h : '"' ∉ p) :
    ∀ c ∈ (tidy p).getLast?, Text.isBlank c = false :=
  (Text.strip_eq_self_iff.mp (strip_tidy_iff.mpr (strip_unquoted h))).2

lemma strip_of_tidy_eq_self (h : tidy p = p) : Text.strip p = p := by
  -- Had it blanks at its ends, tidying would make it shorter.
  have hsub : (Text.strip p).Sublist p :=
    (Text.stripRight_isPrefix _).sublist.trans (Text.stripLeft_suffix p).sublist
  apply hsub.eq_of_length_le
  conv_lhs => rw [← h]
  exact length_tidy_le p

lemma tidy_eq_self (hstrip : Text.strip p = p) (hhead : p.head? ≠ some '/') (hback : '\\' ∉ p)
    (hquote : '"' ∉ p) (h : collapse p = p) : tidy p = p := by
  have hself : unquoted p = p := unquoted_eq_self hback hquote hstrip
  have hshare : ¬['/', '/'] <+: unquoted p := by
    rw [hself]
    rintro ⟨s, rfl⟩
    simp at hhead
  rw [tidy_of_not_share hshare, hself, h]

lemma tidy_tidy_iff : tidy (tidy p) = tidy p ↔ Text.strip (unquoted p) = unquoted p := by
  rw [← strip_tidy_iff]
  refine ⟨strip_of_tidy_eq_self, fun hstrip => ?_⟩
  have hself : unquoted (tidy p) = tidy p :=
    unquoted_eq_self (not_back_mem_tidy p) (not_quote_mem_tidy p) hstrip
  rcases tidy_cases p with ⟨s, hs, htidy⟩ | ⟨_, htidy⟩
  · rw [tidy_of_share (hself.trans htidy), collapse_collapse, htidy]
  · have hshare : ¬['/', '/'] <+: unquoted (tidy p) := by
      rw [hself, htidy]
      exact fun h => not_infix_collapse _ h.isInfix
    rw [tidy_of_not_share hshare, hself, htidy, collapse_collapse]

lemma tidy_tidy_tidy (p : Text) : tidy (tidy (tidy p)) = tidy (tidy p) :=
  tidy_tidy_iff.mpr (strip_unquoted (not_quote_mem_tidy p))

lemma infix_tail_tidy : ['/', '/'] <:+: (tidy p).tail ↔ ['/', '/', '/'] <+: unquoted p := by
  rcases tidy_cases p with ⟨s, hs, htidy⟩ | ⟨hshare, htidy⟩
  · rw [hs, htidy, List.tail_cons, List.infix_cons_iff, or_iff_left (not_infix_collapse s),
      List.cons_prefix_cons, List.cons_prefix_cons, List.cons_prefix_cons]
    simp only [true_and, List.singleton_prefix_iff_head?_eq_some, head_collapse]
  · refine iff_of_false ?_ ?_
    · rw [htidy]
      exact fun h => not_infix_collapse _ (h.trans (List.tail_suffix _).isInfix)
    · exact fun h => hshare ((List.prefix_append ['/', '/'] ['/']).trans h)

lemma not_infix_tail_tail_tidy (p : Text) : ¬['/', '/'] <:+: (tidy p).tail.tail := by
  rcases tidy_cases p with ⟨s, _, htidy⟩ | ⟨_, htidy⟩
  · rw [htidy]
    exact not_infix_collapse s
  · rw [htidy]
    have hsuffix : (collapse (unquoted p)).tail.tail <:+ collapse (unquoted p) :=
      (List.tail_suffix _).trans (List.tail_suffix _)
    exact fun h => not_infix_collapse _ (h.trans hsuffix.isInfix)

/-- The one form of an include directory. Two slashes may stand at its start, but no third one. -/
structure IsTidy (p : Text) : Prop where
  back : '\\' ∉ p
  quote : '"' ∉ p
  slashes : ¬['/', '/'] <:+: p.tail
  again : tidy p = p

lemma isTidy_tidy_iff :
    IsTidy (tidy p) ↔
      ¬['/', '/', '/'] <+: unquoted p ∧ Text.strip (unquoted p) = unquoted p := by
  rw [← infix_tail_tidy, ← tidy_tidy_iff]
  exact ⟨fun h => ⟨h.slashes, h.again⟩,
    fun h => ⟨not_back_mem_tidy p, not_quote_mem_tidy p, h.1, h.2⟩⟩

/-- Tidying leaves a tidy path exactly if no three slashes come to stand at its start and no blank at an
end of it. The slashes stay; the blanks, for which there has to be a quote, are taken off the second
time. -/
theorem isTidy_tidy (p : Text) :
    (IsTidy (tidy p) ↔
        ¬['/', '/', '/'] <+: unquoted p ∧ Text.strip (unquoted p) = unquoted p) ∧
      '\\' ∉ tidy p ∧ '"' ∉ tidy p ∧ ¬['/', '/'] <:+: (tidy p).tail.tail ∧
      (['/', '/'] <:+: (tidy p).tail ↔ ['/', '/', '/'] <+: unquoted p) ∧
      (tidy (tidy p) = tidy p ↔ Text.strip (unquoted p) = unquoted p) ∧
      ('"' ∉ p → Text.strip (unquoted p) = unquoted p) ∧
      tidy (tidy (tidy p)) = tidy (tidy p) :=
  ⟨isTidy_tidy_iff, not_back_mem_tidy p, not_quote_mem_tidy p, not_infix_tail_tail_tidy p,
    infix_tail_tidy, tidy_tidy_iff, strip_unquoted, tidy_tidy_tidy p⟩

theorem isTidy_tidy_samples :
    let share : Text := " \"\\\\host\\inc//x y/\"\n"
    let drive : Text := "\tC:\\\\sdk///lib "
    unquoted share = "//host/inc//x y/" ∧ Text.strip (unquoted share) = unquoted share ∧
      IsTidy (tidy share) ∧ tidy share = "//host/inc/x y/" ∧
      '"' ∉ drive ∧ Text.strip (unquoted drive) = unquoted drive ∧ IsTidy (tidy drive) ∧
      tidy drive = "C:/sdk/lib" := by
  intro share drive
  have hshare : Text.strip (unquoted share) = unquoted share := by decide
  have hquote : '"' ∉ drive := by decide
  obtain ⟨hiff, _⟩ := isTidy_tidy share
  obtain ⟨hiffDrive, _, _, _, _, _, hstrip, _⟩ := isTidy_tidy drive
  exact ⟨by decide, hshare, hiff.mpr ⟨by decide, hshare⟩, by decide, hquote, hstrip hquote,
    hiffDrive.mpr ⟨by decide, hstrip hquote⟩, by decide⟩

theorem isTidy_tidy_exceptions :
    tidy "///a" = "///a" ∧ ¬IsTidy (tidy "///a") ∧
      tidy "a \"" = "a " ∧ tidy "a " = "a" ∧ ¬IsTidy (tidy "a \"") := by
  refine ⟨by decide, ?_, by decide, by decide, ?_⟩
  · intro h
    exact h.slashes (by decide)
  · intro h
    have hagain := h.again
    revert hagain
    decide

end SketchBuild.Path
