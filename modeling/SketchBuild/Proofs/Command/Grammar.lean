import Mathlib.Tactic.SplitIfs
import SketchBuild.Proofs.Command.RoundTrip

namespace SketchBuild.Command

/-- What stands between double quotes, and its value. Only a double quote and a backslash can be
escaped; in front of any other character a backslash stands for itself. -/
inductive IsDouble : Text → Text → Prop
  | nil : IsDouble [] []
  | escape {c : Char} {s v : Text} (hc : c = '"' ∨ c = '\\') (h : IsDouble s v) :
      IsDouble ('\\' :: c :: s) (c :: v)
  | backslash {c : Char} {s v : Text} (hq : c ≠ '"') (hb : c ≠ '\\') (h : IsDouble (c :: s) v) :
      IsDouble ('\\' :: c :: s) ('\\' :: v)
  | plain {c : Char} {s v : Text} (hq : c ≠ '"') (hb : c ≠ '\\') (h : IsDouble s v) :
      IsDouble (c :: s) (c :: v)

/-- A segment of a word: how it is written, its value, and the text behind it. Quotes that are not
closed reach to the end of the text. -/
inductive IsSegment : Text → Text → Text → Prop
  | double {s v rest : Text} (h : IsDouble s v) : IsSegment ('"' :: (s ++ ['"'])) v rest
  | openDouble {s v : Text} (h : IsDouble s v) : IsSegment ('"' :: s) v []
  | openBackslash {s v : Text} (h : IsDouble s v) : IsSegment ('"' :: (s ++ ['\\'])) (v ++ ['\\']) []
  | single {s rest : Text} (h : '\'' ∉ s) : IsSegment ('\'' :: (s ++ ['\''])) s rest
  | openSingle {s : Text} (h : '\'' ∉ s) : IsSegment ('\'' :: s) s []
  | oddRun {n : Nat} {rest : Text} (h : n % 2 = 1) :
      IsSegment (slashRun n ++ ['"']) (slashRun (n / 2) ++ ['"']) rest
  | evenRun {n : Nat} {rest : Text} (hn : 0 < n) (h : n % 2 = 0) :
      IsSegment (slashRun n) (slashRun (n / 2)) ('"' :: rest)
  | bareRun {n : Nat} {rest : Text} (hn : 0 < n) (h : ∀ c ∈ rest.head?, c ≠ '"' ∧ c ≠ '\\') :
      IsSegment (slashRun n) (slashRun n) rest
  | bare {c : Char} {rest : Text} (hc : IsPlain c) (hb : c ≠ '\\') : IsSegment [c] [c] rest

inductive IsWord : Text → Text → Text → Prop
  | one {s v rest : Text} (h : IsSegment s v rest) : IsWord s v rest
  | more {s v s' v' rest : Text} (h : IsSegment s v (s' ++ rest)) (h' : IsWord s' v' rest) :
      IsWord (s ++ s') (v ++ v') rest

inductive IsLine : Text → List Text → Prop
  | blanks {b : Text} (hb : ∀ c ∈ b, Text.isBlank c = true) : IsLine b []
  | word {b s v rest : Text} {vs : List Text} (hb : ∀ c ∈ b, Text.isBlank c = true)
      (h : IsWord s v rest) (hr : AtBoundary rest) (h' : IsLine rest vs) :
      IsLine (b ++ (s ++ rest)) (v :: vs)

section Scan

lemma extend_extend (v w : Text) (ws : List Text) :
    Text.extend v (Text.extend w ws) = Text.extend (v ++ w) ws := by
  cases ws <;> simp [Text.extend]

lemma extend_ne_nil (v : Text) (ws : List Text) : Text.extend v ws ≠ [] := by
  cases ws <;> simp [Text.extend]

lemma scan_ne_nil {m : Mode} (hm : m ≠ .between) (s : Text) : scan m s ≠ [] := by
  induction s generalizing m with
  | nil => cases m <;> simp_all [scan]
  | cons c s ih =>
    cases m with
    | between => exact (hm rfl).elim
    | bare =>
      rw [scan]
      split <;> simp [extend_ne_nil]
    | slashes n =>
      rw [scan]
      split_ifs <;> simp [extend_ne_nil, ih]
    | double =>
      rw [scan]
      split_ifs <;> simp [extend_ne_nil, ih]
    | doubleSlash =>
      rw [scan]
      split <;> simp [extend_ne_nil]
    | single =>
      rw [scan]
      split <;> simp [extend_ne_nil, ih]

lemma extend_nil_scan {m : Mode} (hm : m ≠ .between) (s : Text) :
    Text.extend [] (scan m s) = scan m s := by
  cases hs : scan m s with
  | nil => exact (scan_ne_nil hm s hs).elim
  | cons w ws => rfl

lemma scan_blanks {b : Text} (hb : ∀ c ∈ b, Text.isBlank c = true) (s : Text) :
    scan .between (b ++ s) = scan .between s := by
  induction b with
  | nil => rfl
  | cons c b ih =>
    rw [List.cons_append, scan, if_pos (hb c (by simp)), ih fun x hx => hb x (by simp [hx])]

lemma scan_bare_cons {c : Char} (hc : Text.isBlank c = false) (s : Text) :
    scan .bare (c :: s) = Text.extend (enter c).2 (scan (enter c).1 s) := by
  rw [scan, hc, if_neg (by simp)]

lemma scan_bare_double (s : Text) : scan .bare ('"' :: s) = scan .double s := by
  rw [scan_bare_cons (by decide)]
  exact extend_nil_scan (by decide) s

lemma scan_bare_single (s : Text) : scan .bare ('\'' :: s) = scan .single s := by
  rw [scan_bare_cons (by decide)]
  exact extend_nil_scan (by decide) s

lemma scan_double_cons {c : Char} (hq : c ≠ '"') (hb : c ≠ '\\') (s : Text) :
    scan .double (c :: s) = Text.extend [c] (scan .double s) := by
  rw [scan, if_neg hq, if_neg hb]

lemma IsDouble.scan_append {s v : Text} (h : IsDouble s v) (t : Text) :
    scan .double (s ++ t) = Text.extend v (scan .double t) := by
  induction h with
  | nil => rw [List.nil_append, extend_nil_scan (by decide)]
  | @escape c s v hc h ih =>
    have hescape : (decide (c = '"') || decide (c = '\\')) = true := by simpa using hc
    rw [List.cons_append, List.cons_append, scan, if_neg (by decide), if_pos rfl, scan,
      if_pos hescape, ih, extend_extend]
    rfl
  | @backslash c s v hq hb h ih =>
    have hescape : ¬(decide (c = '"') || decide (c = '\\')) = true := by simp [hq, hb]
    rw [List.cons_append, scan_double_cons hq hb] at ih
    have hfront := congrArg (Text.extend ['\\']) ih
    rw [extend_extend, extend_extend] at hfront
    rw [List.cons_append, List.cons_append, scan, if_neg (by decide), if_pos rfl, scan,
      if_neg hescape]
    exact hfront
  | @plain c s v hq hb h ih =>
    rw [List.cons_append, scan_double_cons hq hb, ih, extend_extend]
    rfl

lemma scan_single_append {s : Text} (h : '\'' ∉ s) (t : Text) :
    scan .single (s ++ t) = Text.extend s (scan .single t) := by
  induction s with
  | nil => rw [List.nil_append, extend_nil_scan (by decide)]
  | cons c s ih =>
    simp only [List.mem_cons, not_or] at h
    rw [List.cons_append, scan, if_neg (Ne.symm h.1), ih h.2, extend_extend]
    rfl

lemma scan_slashes_append (n k : Nat) (t : Text) :
    scan (.slashes k) (slashRun n ++ t) = scan (.slashes (k + n)) t := by
  induction n generalizing k with
  | zero => rfl
  | succ n ih =>
    rw [slashRun, List.replicate_succ, List.cons_append, scan, if_pos rfl, ← slashRun, ih]
    congr 2
    omega

lemma scan_bare_slashes {n : Nat} (hn : 0 < n) (t : Text) :
    scan .bare (slashRun n ++ t) = scan (.slashes n) t := by
  obtain ⟨n, rfl⟩ := Nat.exists_eq_succ_of_ne_zero (Nat.pos_iff_ne_zero.mp hn)
  have hrun : scan .bare ('\\' :: (slashRun n ++ t)) = scan (.slashes 1) (slashRun n ++ t) := by
    rw [scan_bare_cons (by decide)]
    exact extend_nil_scan (by decide) _
  rw [slashRun, List.replicate_succ, List.cons_append, ← slashRun, hrun, scan_slashes_append,
    Nat.add_comm]

lemma scan_slashes_bare {n : Nat} {t : Text} (h : ∀ c ∈ t.head?, c ≠ '"' ∧ c ≠ '\\') :
    scan (.slashes n) t = Text.extend (slashRun n) (scan .bare t) := by
  cases t with
  | nil => simp [scan, Text.extend]
  | cons c t =>
    obtain ⟨hq, hb⟩ := h c rfl
    simp only [scan, if_neg hb, if_neg hq]
    split
    · simp [Text.extend]
    · rw [extend_extend]

lemma IsSegment.scan_append {s v rest : Text} (h : IsSegment s v rest) :
    scan .bare (s ++ rest) = Text.extend v (scan .bare rest) := by
  cases h with
  | double h =>
    rw [List.cons_append, scan_bare_double, List.append_assoc, h.scan_append]
    rfl
  | @openDouble s v h =>
    rw [List.append_nil, scan_bare_double, ← List.append_nil s, h.scan_append]
    rfl
  | openBackslash h =>
    rw [List.append_nil, scan_bare_double, h.scan_append]
    simp [scan, Text.extend]
  | single h =>
    rw [List.cons_append, scan_bare_single, List.append_assoc, scan_single_append h]
    rfl
  | openSingle h =>
    rw [List.append_nil, scan_bare_single, ← List.append_nil v, scan_single_append h,
      List.append_nil]
    rfl
  | @oddRun n rest h =>
    have hn : 0 < n := Nat.pos_of_ne_zero (by rintro rfl; simp at h)
    rw [List.append_assoc, scan_bare_slashes hn, List.singleton_append, scan, if_neg (by decide),
      if_pos rfl, if_pos h]
  | evenRun hn h =>
    rw [scan_bare_slashes hn, scan_bare_double, scan, if_neg (by decide), if_pos rfl,
      if_neg (by omega)]
  | bareRun hn h => rw [scan_bare_slashes hn, scan_slashes_bare h]
  | bare hc hb =>
    obtain ⟨hblank, hq, hs⟩ := hc
    rw [List.singleton_append, scan_bare_cons hblank, enter, if_neg hq, if_neg hs, if_neg hb]

lemma IsWord.scan_append {s v rest : Text} (h : IsWord s v rest) :
    scan .bare (s ++ rest) = Text.extend v (scan .bare rest) := by
  induction h with
  | one h => exact h.scan_append
  | more h _ ih => rw [List.append_assoc, h.scan_append, ih, extend_extend]

lemma slashRun_pos {n : Nat} (hn : 0 < n) : ∃ k, slashRun n = '\\' :: slashRun k := by
  obtain ⟨k, rfl⟩ := Nat.exists_eq_succ_of_ne_zero (Nat.pos_iff_ne_zero.mp hn)
  exact ⟨k, rfl⟩

lemma IsSegment.exists_cons {s v rest : Text} (h : IsSegment s v rest) :
    ∃ c t, s = c :: t ∧ Text.isBlank c = false := by
  cases h with
  | double _ => exact ⟨_, _, rfl, by decide⟩
  | openDouble _ => exact ⟨_, _, rfl, by decide⟩
  | openBackslash _ => exact ⟨_, _, rfl, by decide⟩
  | single _ => exact ⟨_, _, rfl, by decide⟩
  | openSingle _ => exact ⟨_, _, rfl, by decide⟩
  | @oddRun n _ h =>
    obtain ⟨k, hk⟩ := slashRun_pos (n := n) (Nat.pos_of_ne_zero (by rintro rfl; simp at h))
    exact ⟨_, _, by rw [hk, List.cons_append], by decide⟩
  | evenRun hn _ =>
    obtain ⟨k, hk⟩ := slashRun_pos hn
    exact ⟨_, _, hk, by decide⟩
  | bareRun hn _ =>
    obtain ⟨k, hk⟩ := slashRun_pos hn
    exact ⟨_, _, hk, by decide⟩
  | bare hc _ => exact ⟨_, _, rfl, hc.1⟩

lemma IsWord.exists_cons {s v rest : Text} (h : IsWord s v rest) :
    ∃ c t, s = c :: t ∧ Text.isBlank c = false := by
  cases h with
  | one h => exact h.exists_cons
  | more h _ =>
    obtain ⟨c, t, rfl, hc⟩ := h.exists_cons
    exact ⟨c, _, rfl, hc⟩

lemma IsLine.words_eq {line : Text} {vs : List Text} (h : IsLine line vs) : words line = vs := by
  rw [words]
  induction h with
  | @blanks b hb => rw [← List.append_nil b, scan_blanks hb, scan]
  | @word b s v rest vs hb h hr _ ih =>
    obtain ⟨c, t, rfl, hc⟩ := h.exists_cons
    rw [scan_blanks hb, List.cons_append, scan_between_cons hc, ← List.cons_append, h.scan_append,
      scan_bare_boundary hr, ih, Text.extend, List.append_nil]

end Scan

section Exists

lemma exists_isDouble : ∀ s : Text, ∃ t v rest, s = t ++ rest ∧ IsDouble t v ∧
    (rest = [] ∨ rest = ['\\'] ∨ rest.head? = some '"')
  | [] => ⟨[], [], [], rfl, .nil, Or.inl rfl⟩
  | [c] => by
    by_cases hq : c = '"'
    · exact ⟨[], [], [c], rfl, .nil, Or.inr (Or.inr (by simp [hq]))⟩
    · by_cases hb : c = '\\'
      · exact ⟨[], [], [c], rfl, .nil, Or.inr (Or.inl (by simp [hb]))⟩
      · exact ⟨[c], [c], [], rfl, .plain hq hb .nil, Or.inl rfl⟩
  | c :: c' :: s => by
    by_cases hq : c = '"'
    · exact ⟨[], [], c :: c' :: s, rfl, .nil, Or.inr (Or.inr (by simp [hq]))⟩
    · by_cases hb : c = '\\'
      · subst hb
        by_cases hc : c' = '"' ∨ c' = '\\'
        · obtain ⟨t, v, rest, rfl, h, hend⟩ := exists_isDouble s
          exact ⟨_, _, rest, rfl, .escape hc h, hend⟩
        · obtain ⟨hq', hb'⟩ := not_or.mp hc
          obtain ⟨t, v, rest, rfl, h, hend⟩ := exists_isDouble s
          exact ⟨_, _, rest, rfl, .backslash hq' hb' (.plain hq' hb' h), hend⟩
      · obtain ⟨t, v, rest, hs, h, hend⟩ := exists_isDouble (c' :: s)
        exact ⟨c :: t, _, rest, by rw [hs, List.cons_append], .plain hq hb h, hend⟩

lemma exists_slashRun (s : Text) : ∃ n rest, s = slashRun n ++ rest ∧ rest.head? ≠ some '\\' := by
  induction s with
  | nil => exact ⟨0, [], rfl, by simp⟩
  | cons c s ih =>
    by_cases hc : c = '\\'
    · subst hc
      obtain ⟨n, rest, rfl, h⟩ := ih
      exact ⟨n + 1, rest, rfl, h⟩
    · exact ⟨0, c :: s, rfl, by simpa using hc⟩

lemma exists_isSegment_double (s : Text) :
    ∃ t v rest, '"' :: s = t ++ rest ∧ IsSegment t v rest := by
  obtain ⟨t, v, rest, rfl, h, rfl | rfl | hend⟩ := exists_isDouble s
  · exact ⟨_, v, [], by simp, .openDouble h⟩
  · exact ⟨_, _, [], by simp, .openBackslash h⟩
  · obtain ⟨rest, rfl⟩ := List.head?_eq_some_iff.mp hend
    exact ⟨_, v, rest, by simp, .double h⟩

lemma exists_isSegment_single (s : Text) :
    ∃ t v rest, '\'' :: s = t ++ rest ∧ IsSegment t v rest := by
  by_cases hs : '\'' ∈ s
  · obtain ⟨t, rest, rfl, h⟩ := List.eq_append_cons_of_mem hs
    exact ⟨_, t, rest, by simp, .single h⟩
  · exact ⟨_, s, [], by simp, .openSingle hs⟩

lemma exists_isSegment_slashes (s : Text) :
    ∃ t v rest, '\\' :: s = t ++ rest ∧ IsSegment t v rest := by
  obtain ⟨n, rest, rfl, hend⟩ := exists_slashRun s
  have hrun : '\\' :: (slashRun n ++ rest) = slashRun (n + 1) ++ rest := rfl
  rw [hrun]
  by_cases hq : rest.head? = some '"'
  · obtain ⟨rest, rfl⟩ := List.head?_eq_some_iff.mp hq
    by_cases hodd : (n + 1) % 2 = 1
    · exact ⟨_, _, rest, by simp, .oddRun hodd⟩
    · exact ⟨_, _, _, rfl, .evenRun n.succ_pos (by omega)⟩
  · refine ⟨_, _, rest, rfl, .bareRun n.succ_pos fun c hc => ⟨?_, ?_⟩⟩
    · rintro rfl
      exact hq hc
    · rintro rfl
      exact hend hc

lemma exists_isSegment {c : Char} (hc : Text.isBlank c = false) (s : Text) :
    ∃ t v rest, c :: s = t ++ rest ∧ IsSegment t v rest := by
  by_cases hd : c = '"'
  · subst hd
    exact exists_isSegment_double s
  · by_cases hq : c = '\''
    · subst hq
      exact exists_isSegment_single s
    · by_cases hb : c = '\\'
      · subst hb
        exact exists_isSegment_slashes s
      · exact ⟨[c], [c], s, rfl, .bare ⟨hc, hd, hq⟩ hb⟩

lemma exists_isWord {c : Char} (hc : Text.isBlank c = false) (s : Text) :
    ∃ t v rest, c :: s = t ++ rest ∧ IsWord t v rest ∧ AtBoundary rest := by
  induction hn : s.length using Nat.strongRecOn generalizing c s with
  | _ n ih =>
    obtain ⟨t, v, rest, hs, h⟩ := exists_isSegment hc s
    by_cases hr : AtBoundary rest
    · exact ⟨t, v, rest, hs, .one h, hr⟩
    · cases rest with
      | nil => exact (hr atBoundary_nil).elim
      | cons c' s' =>
        have hc' : Text.isBlank c' = false := by simpa [AtBoundary] using hr
        obtain ⟨x, u, rfl, _⟩ := h.exists_cons
        have hlength : s'.length < n := by
          have := congrArg List.length hs
          simp at this
          omega
        obtain ⟨t', v', rest', hs', h', hr'⟩ := ih s'.length hlength hc' s' rfl
        rw [hs'] at hs h
        exact ⟨_, _, rest', by rw [hs, List.append_assoc], .more h h', hr'⟩

lemma exists_isLine (line : Text) : ∃ vs, IsLine line vs := by
  induction hn : line.length using Nat.strongRecOn generalizing line with
  | _ n ih =>
    have hb : ∀ c ∈ line.takeWhile Text.isBlank, Text.isBlank c = true :=
      List.all_eq_true.mp List.all_takeWhile
    rw [← List.takeWhile_append_dropWhile (p := Text.isBlank) (l := line)] at hn ⊢
    cases hd : line.dropWhile Text.isBlank with
    | nil =>
      rw [List.append_nil]
      exact ⟨[], .blanks hb⟩
    | cons c s =>
      have hc : Text.isBlank c = false := by
        have := List.head?_dropWhile_not Text.isBlank line
        rw [hd] at this
        simpa using this
      obtain ⟨t, v, rest, hs, h, hr⟩ := exists_isWord hc s
      obtain ⟨x, u, rfl, _⟩ := h.exists_cons
      have hlength : rest.length < n := by
        rw [hd, hs] at hn
        simp at hn
        omega
      obtain ⟨vs, h'⟩ := ih rest.length hlength rest rfl
      rw [hs]
      exact ⟨_, .word hb h hr h'⟩

end Exists

theorem isLine_iff_words (line : Text) (vs : List Text) : IsLine line vs ↔ vs = words line := by
  constructor
  · exact fun h => h.words_eq.symm
  · rintro rfl
    obtain ⟨vs, h⟩ := exists_isLine line
    rwa [h.words_eq]

example : words "\"a \\b\"c \\\\\\\"d ''" = (["a \\bc", "\\\"d", ""] : List Text) := by decide

end SketchBuild.Command
