import SketchBuild.Diagnostic.Scan
import SketchBuild.Proofs.Path.Normal
import SketchBuild.Proofs.Text.Digit
import SketchBuild.Proofs.Text.Newline
import SketchBuild.Proofs.Text.Strip

namespace SketchBuild.Diagnostic

structure IsRead (cwd workingDir line : Text) (r : Diagnostic) : Prop where
  file : ∃ path, r.file = Path.resolve cwd workingDir path
  trimmed : Text.strip r.message = r.message
  chars : ∀ c ∈ r.message, c ∈ line
  line_pos : 1 ≤ r.line
  line_lt : r.line < 10 ^ Text.maxDigits
  column_pos : 1 ≤ r.column
  column_lt : r.column < 10 ^ Text.maxDigits
  code : r.code = code? r.message

lemma number?_suffix (s : Text) : (number? s).2 <:+ s := by
  have hdrop : s.dropWhile Text.isDigit <:+ s := List.dropWhile_suffix _
  rw [number?]
  split
  · exact List.suffix_rfl
  · rename_i hrest _
    rw [hrest] at hdrop
    exact (List.suffix_cons ':' _).trans hdrop
  · exact List.suffix_rfl

lemma severity?_suffix {s rest : Text} {severity : Option Severity}
    (h : severity? s = some (severity, rest)) : rest <:+ s := by
  obtain ⟨⟨word, kind⟩, _, hword⟩ := List.exists_of_findSome?_eq_some h
  obtain ⟨t, ht, heq⟩ := Option.map_eq_some_iff.mp hword
  obtain rfl : t = rest := (Prod.mk.inj heq).2
  rw [Text.dropPrefix?_eq_some ht]
  exact List.suffix_append _ t

lemma message_tail? {s : Text} {tail : Tail} (h : tail? s = some tail) :
    tail.message <:+ s := by
  simp only [tail?] at h
  split at h
  · simp at h
  · rename_i severity rest hs
    split at h
    · simp at h
    · obtain rfl := Option.some.inj h
      have hrest : rest <:+ (number? (number? s).2).2 :=
        (severity?_suffix hs).trans (Text.stripLeft_suffix _)
      have hnumbers : (number? (number? s).2).2 <:+ s :=
        (number?_suffix (number? s).2).trans (number?_suffix s)
      exact (Text.stripLeft_suffix rest).trans (hrest.trans hnumbers)

lemma message_split? {s path : Text} {tail : Tail} (h : split? s = some (path, tail)) :
    tail.message <:+ s := by
  induction s generalizing path with
  | nil => simp [split?] at h
  | cons c s ih =>
    rw [split?] at h
    split at h
    · simp at h
    · split at h
      · rename_i rest
        split at h
        · rename_i t ht
          obtain rfl : t = tail := (Prod.mk.inj (Option.some.inj h)).2
          exact (message_tail? ht).trans ((List.suffix_cons ':' rest).trans (List.suffix_cons c _))
        · obtain ⟨⟨p, t⟩, hp, heq⟩ := Option.map_eq_some_iff.mp h
          obtain rfl : t = tail := (Prod.mk.inj heq).2
          exact (ih hp).trans (List.suffix_cons c _)
      · obtain ⟨⟨p, t⟩, hp, heq⟩ := Option.map_eq_some_iff.mp h
        obtain rfl : t = tail := (Prod.mk.inj heq).2
        exact (ih hp).trans (List.suffix_cons c s)

lemma one_le_position (digits : Option Text) : 1 ≤ position digits := by
  cases digits with
  | none => rfl
  | some digits =>
    simp only [position]
    split
    · rfl
    · exact Nat.le_max_left 1 _

lemma position_lt (digits : Option Text) : position digits < 10 ^ Text.maxDigits := by
  have hone : 1 < 10 ^ Text.maxDigits := Nat.one_lt_pow (by decide) (by decide)
  cases digits with
  | none => exact hone
  | some digits =>
    simp only [position]
    split
    · exact hone
    · rename_i hlen
      apply Nat.max_lt.mpr
      refine ⟨hone, (Text.digitsValue_lt digits).trans_le ?_⟩
      exact Nat.pow_le_pow_right (by decide) (Nat.le_of_not_lt hlen)

lemma isRead_of_readLine {cwd workingDir line : Text} {r : Diagnostic}
    (h : readLine cwd workingDir line = .diagnostic r) : IsRead cwd workingDir line r := by
  simp only [readLine] at h
  split at h
  · simp at h
  · split at h
    · simp at h
    · rename_i path tail hsplit
      split at h
      · simp at h
      · rename_i severity _
        split at h
        · simp at h
        · split at h
          · simp at h
          · obtain rfl := Line.diagnostic.inj h
            refine {
              file := ⟨Text.strip path, rfl⟩
              trimmed := Text.strip_strip tail.message
              chars := ?_
              line_pos := one_le_position tail.line
              line_lt := position_lt tail.line
              column_pos := one_le_position tail.column
              column_lt := position_lt tail.column
              code := rfl }
            intro c hc
            exact Text.mem_of_mem_strip ((message_split? hsplit).mem (Text.mem_of_mem_strip hc))

lemma ofLine?_eq_some_iff {cwd workingDir line : Text} {r : Diagnostic} :
    ofLine? cwd workingDir line = some r ↔ readLine cwd workingDir line = .diagnostic r := by
  rw [ofLine?]
  cases readLine cwd workingDir line <;> simp

lemma exists_isRead {cwd workingDir text : Text} {r : Diagnostic} (h : r ∈ ofText cwd workingDir text) :
    ∃ line ∈ outputLines text, IsRead cwd workingDir line r := by
  obtain ⟨line, hline, hr⟩ := List.mem_filterMap.mp h
  exact ⟨line, hline, isRead_of_readLine (ofLine?_eq_some_iff.mp hr)⟩

lemma dropColors_plain_self {s : Text} (h : '\x1b' ∉ s) : dropColors .plain s = s := by
  induction s with
  | nil => rfl
  | cons c s ih =>
    have hc : c ≠ '\x1b' := fun hc => h (by simp [hc])
    rw [dropColors, if_neg hc, ih fun hs => h (by simp [hs])]

lemma not_mem_outputLines {text line : Text} (ht : '\x1b' ∉ text) (h : line ∈ outputLines text) :
    '\n' ∉ line ∧ '\r' ∉ line ∧ '\x1b' ∉ line := by
  have hescape : '\x1b' ∉ Text.unifyNewlines text := by
    intro hc
    exact ht (Text.mem_of_mem_unifyNewlines (by decide) hc)
  rw [outputLines, dropColors_plain_self hescape, Text.lines] at h
  have hmem : ∀ c ∈ line, c ∈ Text.unifyNewlines text := fun c => Path.mem_of_mem_pieces h
  exact ⟨Path.not_mem_of_mem_pieces '\n' _ line h, fun hc => Text.not_mem_unifyNewlines text (hmem _ hc),
    fun hc => hescape (hmem _ hc)⟩

end SketchBuild.Diagnostic
