import SketchBuild.Proofs.Path.Join
import SketchBuild.Proofs.Path.Again

/-! A resolved path is a location if it is absolute and leads to itself from wherever it is read. Paths
from a rooted directory are; those of another platform are as far as they keep their root and nothing
is left in them to tidy. -/

namespace SketchBuild.Path

/-- Absolute, and the same whatever it is read from. -/
structure IsLocation (p : Text) : Prop where
  absolute : isAbsolute p = true
  fixed : ∀ cwd base, resolve cwd base p = p

lemma resolve_of_isAbsolute (cwd base : Text) {p : Text} (h : isAbsolute p = true) :
    resolve cwd base p = if isDriveRooted p then tidy p else normalize p := by
  rw [resolve, if_pos h]

lemma resolve_of_rooted (cwd base : Text) {p : Text} (h : p.head? = some '/') :
    resolve cwd base p = normalize p := by
  have habsolute : isAbsolute p = true := by simp [isAbsolute, h]
  rw [resolve_of_isAbsolute cwd base habsolute, if_neg fun hd => head_of_isDriveRooted hd h]

lemma isLocation_iff {p : Text} :
    IsLocation p ↔
      isAbsolute p = true ∧ (if isDriveRooted p then tidy p else normalize p) = p := by
  constructor
  · rintro ⟨habsolute, hfixed⟩
    exact ⟨habsolute, (resolve_of_isAbsolute [] [] habsolute).symm.trans (hfixed [] [])⟩
  · rintro ⟨habsolute, hself⟩
    exact ⟨habsolute, fun cwd base => (resolve_of_isAbsolute cwd base habsolute).trans hself⟩

section Drive

variable {p : Text}

lemma exists_of_isDriveRooted (h : isDriveRooted p = true) :
    ∃ c s rest, p = c :: ':' :: s :: rest ∧ c.isAlpha = true ∧ (s = '/' ∨ s = '\\') := by
  unfold isDriveRooted at h
  split at h
  · rename_i c s rest
    simp only [Bool.and_eq_true, Bool.or_eq_true, decide_eq_true_eq] at h
    exact ⟨c, s, rest, rfl, h.1, h.2⟩
  · simp at h

lemma isDriveRooted_cons {c : Char} (hc : c.isAlpha = true) {s : Text} (hs : s.head? = some '/') :
    isDriveRooted (c :: ':' :: s) = true := by
  obtain ⟨t, rfl⟩ := List.head?_eq_some_iff.mp hs
  simp [isDriveRooted, hc]

lemma stripRight_cons {s : Text} (h : Text.stripRight s ≠ []) (c : Char) :
    Text.stripRight (c :: s) = c :: Text.stripRight s := by
  have hne : s.reverse.dropWhile Text.isBlank ≠ [] := by simpa [Text.stripRight] using h
  rw [Text.stripRight, List.reverse_cons, List.dropWhile_append, if_neg (by simpa using hne),
    List.reverse_append]
  rfl

lemma exists_unquoted (h : isDriveRooted p = true) :
    ∃ c rest, c.isAlpha = true ∧ unquoted p = c :: ':' :: '/' :: rest := by
  obtain ⟨c, s, rest, rfl, hc, hs⟩ := exists_of_isDriveRooted h
  have hblank : Text.isBlank s = false := by rcases hs with rfl | rfl <;> decide
  obtain ⟨kept, hkept⟩ := exists_stripRight hblank rest
  have hleft : Text.stripLeft (c :: ':' :: s :: rest) = c :: ':' :: s :: rest :=
    Text.stripLeft_eq_self (by simpa using isBlank_of_isAlpha hc)
  have hright : Text.stripRight (c :: ':' :: s :: rest) = c :: ':' :: s :: kept := by
    have hdrive : Text.stripRight (':' :: s :: rest) = ':' :: s :: kept := by
      rw [stripRight_cons (by simp [hkept]), hkept]
    rw [stripRight_cons (by simp [hdrive]), hdrive]
  obtain ⟨hslash, hback, hquote⟩ := ne_of_isAlpha hc
  rw [unquoted, Text.strip, hleft, hright]
  rcases hs with rfl | rfl <;> simp [hback, hquote, hc]

lemma tidy_of_isDriveRooted (h : isDriveRooted p = true) : tidy p = collapse (unquoted p) := by
  obtain ⟨c, rest, hc, hunquoted⟩ := exists_unquoted h
  apply tidy_of_not_share
  rw [hunquoted]
  rintro ⟨s, hs⟩
  exact (ne_of_isAlpha hc).1 (List.cons.inj hs).1.symm

lemma isDriveRooted_tidy (h : isDriveRooted p = true) : isDriveRooted (tidy p) = true := by
  obtain ⟨c, rest, hc, hunquoted⟩ := exists_unquoted h
  have hletters : '/' ∉ [c, ':'] := by simpa using (ne_of_isAlpha hc).1.symm
  have hcollapse : collapse (c :: ':' :: '/' :: rest) = c :: ':' :: collapse ('/' :: rest) :=
    collapse_append hletters
  rw [tidy_of_isDriveRooted h, hunquoted, hcollapse]
  exact isDriveRooted_cons hc (head_collapse _)

end Drive

section Backslash

variable {p : Text}

lemma foldl_push_of_not_mem (rooted : Bool) {parts : List Text} (h : ['.', '.'] ∉ parts)
    (stack : List Text) :
    parts.foldl (push rooted) stack =
      (parts.filter fun part => part ≠ [] ∧ part ≠ ['.']).reverse ++ stack := by
  induction parts generalizing stack with
  | nil => rfl
  | cons part parts ih =>
    obtain ⟨hdots, hrest⟩ := not_or.mp (List.mem_cons.not.mp h)
    rw [List.foldl_cons, ih hrest]
    by_cases hskip : part = [] ∨ part = ['.']
    · have hpush : push rooted stack part = stack := by simp [push, hskip]
      rw [hpush, List.filter_cons_of_neg (by simpa [← not_or] using hskip)]
    · have hpush : push rooted stack part = part :: stack := by
        simp [push, hskip, Ne.symm hdots]
      rw [hpush, List.filter_cons_of_pos (by simpa [← not_or] using hskip)]
      simp

lemma head_normalize {c : Char} (hc : p.head? = some c) (hslash : c ≠ '/') (hdot : c ≠ '.')
    (h : ['.', '.'] ∉ Text.pieces '/' p) : (normalize p).head? = some c := by
  obtain ⟨s, rfl⟩ := List.head?_eq_some_iff.mp hc
  have hrooted : (c :: s).head? ≠ some '/' := by simpa using hslash
  obtain ⟨w, ws, hpieces⟩ : ∃ w ws, Text.pieces '/' (c :: s) = (c :: w) :: ws := by
    rw [Text.pieces, if_neg hslash]
    cases Text.pieces '/' s with
    | nil => exact ⟨[], [], rfl⟩
    | cons w ws => exact ⟨w, ws, rfl⟩
  have hcomponents : ∃ cs, components false (c :: s) = (c :: w) :: cs := by
    rw [components, foldl_push_of_not_mem false h, hpieces, List.filter_cons_of_pos (by simp [hdot]),
      List.append_nil, List.reverse_reverse]
    exact ⟨_, rfl⟩
  obtain ⟨cs, hcs⟩ := hcomponents
  rw [normalize_of_not_rooted hrooted, hcs, if_neg (by simp)]
  cases cs <;> simp

end Backslash

section Resolve

variable {cwd base path : Text}

/-- Nothing is in a path that tidying takes out, repeated slashes apart. -/
structure IsTrim (p : Text) : Prop where
  back : '\\' ∉ p
  quote : '"' ∉ p
  last : ∀ c ∈ p.getLast?, Text.isBlank c = false

lemma isTrim_of_tidy_eq_self {p : Text} (h : tidy p = p) : IsTrim p where
  back hback := by
    rw [← h] at hback
    exact (mem_tidy hback).1 rfl
  quote hquote := by
    rw [← h] at hquote
    exact (mem_tidy hquote).2 rfl
  last c hc := by
    rw [← strip_of_tidy_eq_self h] at hc
    exact Text.not_isBlank_last_strip hc

lemma IsTrim.tidy_eq_self {p : Text} (h : IsTrim p) (hd : isDriveRooted p = true)
    (hcollapse : collapse p = p) : tidy p = p := by
  have hhead : ∀ c ∈ p.head?, Text.isBlank c = false := by
    obtain ⟨c, s, rest, rfl, hc, _⟩ := exists_of_isDriveRooted hd
    simpa using isBlank_of_isAlpha hc
  exact Path.tidy_eq_self (Text.strip_eq_self hhead h.last) (head_of_isDriveRooted hd) h.back h.quote
    hcollapse

lemma isDriveRooted_resolve (h : isDriveRooted path = true) :
    isDriveRooted (resolve cwd base path) = true := by
  rw [resolve, if_pos h]
  exact isDriveRooted_tidy h

lemma isLocation_resolve_iff :
    IsLocation (resolve cwd base path) ↔ isAbsolute (resolve cwd base path) = true ∧
      (isDriveRooted (resolve cwd base path) = true → IsTrim (resolve cwd base path)) := by
  rw [isLocation_iff]
  apply and_congr_right
  intro habsolute
  by_cases hd : isDriveRooted (resolve cwd base path) = true
  · rw [if_pos hd]
    refine ⟨fun h _ => isTrim_of_tidy_eq_self h, fun h => ?_⟩
    exact (h hd).tidy_eq_self hd (collapse_resolve (head_of_isDriveRooted hd))
  · have hpath : isDriveRooted path = false := by
      by_contra hpath
      exact hd (isDriveRooted_resolve (Bool.not_eq_false _ ▸ hpath))
    rw [if_neg hd]
    exact iff_of_true (normalize_resolve hpath) fun h => (hd h).elim

lemma IsAnchored.isLocation {p : Text} (h : IsAnchored p) : IsLocation p where
  absolute := by simp [isAbsolute, h.rooted]
  fixed cwd base := resolve_of_isAnchored cwd base h

lemma isLocation_of_rooted (h : path.head? = some '/') : IsLocation (resolve cwd base path) := by
  rw [resolve_of_rooted cwd base h]
  exact (isAnchored_normalize h).isLocation

lemma isLocation_of_relative (hpath : isAbsolute path = false)
    (hbase : (if base = [] then cwd else base).head? = some '/') :
    IsLocation (resolve cwd base path) := by
  have hd : isDriveRooted path ≠ true := by
    intro hd
    simp [isAbsolute, hd] at hpath
  rw [resolve, if_neg hd, hpath, if_neg (by simp)]
  exact (isAnchored_normalize (rooted_join hbase)).isLocation

lemma isAbsolute_resolve_of_isDriveRooted (h : isDriveRooted path = true) :
    isAbsolute (resolve cwd base path) = true := by
  simp [isAbsolute, isDriveRooted_resolve h]

lemma isLocation_of_isDriveRooted (h : isDriveRooted path = true) (hquote : '"' ∉ path) :
    IsLocation (resolve cwd base path) := by
  rw [isLocation_resolve_iff]
  refine ⟨isAbsolute_resolve_of_isDriveRooted h, fun _ => ?_⟩
  rw [resolve, if_pos h]
  exact ⟨not_back_mem_tidy path, not_quote_mem_tidy path, not_isBlank_last_tidy hquote⟩

lemma isLocation_of_backslash (h : path.head? = some '\\')
    (hdots : ['.', '.'] ∉ Text.pieces '/' path) : IsLocation (resolve cwd base path) := by
  have habsolute : isAbsolute path = true := by simp [isAbsolute, h]
  have hnotDrive : ∀ p : Text, p.head? = some '\\' → isDriveRooted p ≠ true := by
    intro p hp hd
    obtain ⟨c, s, rest, rfl, hc, _⟩ := exists_of_isDriveRooted hd
    exact (ne_of_isAlpha hc).2.1 (by simpa using hp)
  have hhead : (resolve cwd base path).head? = some '\\' := by
    rw [resolve_of_isAbsolute cwd base habsolute, if_neg (hnotDrive path h)]
    exact head_normalize h (by decide) (by decide) hdots
  rw [isLocation_resolve_iff]
  exact ⟨by simp [isAbsolute, hhead], fun hd => (hnotDrive _ hhead hd).elim⟩

/-- A resolved path is a location exactly if it is absolute and, on a drive, trim. A rooted path always
leads to one, and so does a relative one from a rooted directory, a path on a drive that holds no quote,
and one that starts with a backslash and does not go up. -/
theorem isLocation_resolve (cwd base path : Text) :
    (IsLocation (resolve cwd base path) ↔ isAbsolute (resolve cwd base path) = true ∧
        (isDriveRooted (resolve cwd base path) = true → IsTrim (resolve cwd base path))) ∧
      (path.head? = some '/' → IsLocation (resolve cwd base path)) ∧
      (isAbsolute path = false → (if base = [] then cwd else base).head? = some '/' →
        IsLocation (resolve cwd base path)) ∧
      (isDriveRooted path = true → isAbsolute (resolve cwd base path) = true ∧
        ('"' ∉ path → IsLocation (resolve cwd base path))) ∧
      (path.head? = some '\\' → ['.', '.'] ∉ Text.pieces '/' path →
        IsLocation (resolve cwd base path)) :=
  ⟨isLocation_resolve_iff, isLocation_of_rooted, isLocation_of_relative,
    fun h => ⟨isAbsolute_resolve_of_isDriveRooted h, isLocation_of_isDriveRooted h⟩,
    isLocation_of_backslash⟩

theorem isLocation_resolve_samples :
    let up : Text := "../a.c"
    let drive : Text := "C:\\sdk\\\\a.c "
    let share : Text := "\\\\host/x/./a.c"
    IsLocation (resolve "/w" "" "/p/../a.c") ∧
      isAbsolute up = false ∧ IsLocation (resolve "/w" "/p//q" up) ∧
      isDriveRooted drive = true ∧ '"' ∉ drive ∧ IsLocation (resolve "/w" "" drive) ∧
      resolve "/w" "" drive = "C:/sdk/a.c" ∧
      ['.', '.'] ∉ Text.pieces '/' share ∧ IsLocation (resolve "/w" "" share) ∧
      IsTrim (resolve "/w" "C:/sdk" "a.c") ∧ IsLocation (resolve "/w" "C:/sdk" "a.c") := by
  intro up drive share
  have hup : isAbsolute up = false := by decide
  have hdrive : isDriveRooted drive = true := by decide
  have hquote : '"' ∉ drive := by decide
  have hshare : ['.', '.'] ∉ Text.pieces '/' share := by decide
  have hlast : (resolve "/w" "C:/sdk" "a.c").getLast? = some 'c' := by decide
  have htrim : IsTrim (resolve "/w" "C:/sdk" "a.c") := by
    refine ⟨by decide, by decide, ?_⟩
    rw [hlast]
    rintro c ⟨⟩
    decide
  obtain ⟨_, hrooted, _⟩ := isLocation_resolve "/w" "" "/p/../a.c"
  obtain ⟨_, _, hrelative, _⟩ := isLocation_resolve "/w" "/p//q" up
  obtain ⟨_, _, _, honDrive, _⟩ := isLocation_resolve "/w" "" drive
  obtain ⟨_, _, _, _, hback⟩ := isLocation_resolve "/w" "" share
  obtain ⟨hiff, _⟩ := isLocation_resolve "/w" "C:/sdk" "a.c"
  exact ⟨hrooted rfl, hup, hrelative hup (by decide), hdrive, hquote, (honDrive hdrive).2 hquote,
    by decide, hshare, hback rfl hshare, htrim, hiff.mpr ⟨by decide, fun _ => htrim⟩⟩

/-- A relative directory makes the result relative, going up eats the root of a share, and a blank before
a quote is only taken off the second time. -/
theorem isLocation_resolve_exceptions :
    resolve "/w" "b" "a.c" = "b/a.c" ∧ isAbsolute "b/a.c" = false ∧
      resolve "/w" "/w" "\\a/../c" = "c" ∧ isAbsolute "c" = false ∧
      resolve "/w" "/w" "C:/a \"" = "C:/a " ∧ resolve "/w" "/x" "C:/a " = "C:/a" ∧
      ¬IsLocation (resolve "/w" "b" "a.c") ∧ ¬IsLocation (resolve "/w" "/w" "\\a/../c") ∧
      ¬IsLocation (resolve "/w" "/w" "C:/a \"") := by
  refine ⟨by decide, by decide, by decide, by decide, by decide, by decide, ?_, ?_, ?_⟩
  · rintro ⟨habsolute, _⟩
    revert habsolute
    decide
  · rintro ⟨habsolute, _⟩
    revert habsolute
    decide
  · rintro ⟨_, hfixed⟩
    have hagain := hfixed "/w" "/x"
    revert hagain
    decide

end Resolve

end SketchBuild.Path
