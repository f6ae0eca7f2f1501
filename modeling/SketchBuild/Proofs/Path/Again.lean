import SketchBuild.Proofs.Path.Resolve
import SketchBuild.Proofs.Path.Tidy

namespace SketchBuild.Path

structure IsBuilt (rooted : Bool) (stack : List Text) : Prop where
  isPart : ∀ c ∈ stack, c ≠ [] ∧ c ≠ ['.']
  again : stack.reverse.foldl (push rooted) [] = stack

lemma isBuilt_nil (rooted : Bool) : IsBuilt rooted [] := ⟨by simp, rfl⟩

lemma foldl_push_concat (rooted : Bool) (stack : List Text) (part : Text) :
    (part :: stack).reverse.foldl (push rooted) [] =
      push rooted (stack.reverse.foldl (push rooted) []) part := by
  rw [List.reverse_cons, List.foldl_append]
  rfl

lemma IsBuilt.cons {rooted : Bool} {stack : List Text} {part : Text} (h : IsBuilt rooted stack)
    (hne : part ≠ []) (hdot : part ≠ ['.']) (hp : push rooted stack part = part :: stack) :
    IsBuilt rooted (part :: stack) where
  isPart := by
    intro c hc
    rcases List.mem_cons.mp hc with rfl | hc
    · exact ⟨hne, hdot⟩
    · exact h.isPart c hc
  again := by rw [foldl_push_concat, h.again, hp]

lemma IsBuilt.below {rooted : Bool} {stack : List Text} {top : Text}
    (h : IsBuilt rooted (top :: stack)) (hdots : top ≠ ['.', '.']) : IsBuilt rooted stack where
  isPart := fun c hc => h.isPart c (by simp [hc])
  again := by
    obtain ⟨hne, hdot⟩ := h.isPart top (by simp)
    have hagain := h.again
    rw [foldl_push_concat] at hagain
    simpa [Path.push, hne, hdot, hdots] using hagain

lemma IsBuilt.push {rooted : Bool} {stack : List Text} (h : IsBuilt rooted stack) (part : Text) :
    IsBuilt rooted (push rooted stack part) := by
  by_cases hskip : part = [] ∨ part = ['.']
  · have hp : Path.push rooted stack part = stack := by
      simp [Path.push, hskip]
    rwa [hp]
  · obtain ⟨hne, hdot⟩ := not_or.mp hskip
    by_cases hdots : part = ['.', '.']
    · subst hdots
      cases stack with
      | nil =>
        cases rooted
        · exact h.cons hne hdot rfl
        · exact isBuilt_nil true
      | cons top below =>
        by_cases htop : top = ['.', '.']
        · -- nothing can be taken off a stack of `..` components, so one more goes on top
          have hp : Path.push rooted (top :: below) ['.', '.'] = ['.', '.'] :: top :: below := by
            simp [Path.push, htop]
          rw [hp]
          exact h.cons hne hdot hp
        · have hp : Path.push rooted (top :: below) ['.', '.'] = below := by
            simp [Path.push, htop]
          rw [hp]
          exact h.below htop
    · have hp : Path.push rooted stack part = part :: stack := by
        simp [Path.push, hne, hdot, hdots]
      rw [hp]
      exact h.cons hne hdot hp

lemma isBuilt_foldl {rooted : Bool} (parts : List Text) {stack : List Text}
    (h : IsBuilt rooted stack) : IsBuilt rooted (parts.foldl (push rooted) stack) := by
  induction parts generalizing stack with
  | nil => exact h
  | cons part parts ih => exact ih (h.push part)

lemma components_intercalate (rooted : Bool) (p : Text) :
    components rooted (['/'].intercalate (components rooted p)) = components rooted p := by
  have hbuilt := isBuilt_foldl (Text.pieces '/' p) (isBuilt_nil rooted)
  rw [components]
  by_cases hne : components rooted p = []
  · simp [hne, Text.pieces]
  · rw [pieces_intercalate '/' _ hne fun c hc => (components_isPart rooted p c hc).2, components,
      hbuilt.again]

lemma rootSlashes_eq_zero {p : Text} (h : p.head? ≠ some '/') : rootSlashes p = 0 := by
  unfold rootSlashes
  split <;> simp_all

lemma normalize_of_not_rooted {p : Text} (h : p.head? ≠ some '/') :
    normalize p =
      if components false p = [] then ['.'] else ['/'].intercalate (components false p) := by
  have hne : ['/'].intercalate (components false p) = [] ↔ components false p = [] := by
    cases hc : components false p with
    | nil => simp
    | cons c cs =>
      have hpart := (components_isPart false p c (by simp [hc])).1
      cases cs <;> simp [hpart]
  simp only [normalize, rootSlashes_eq_zero h, List.replicate_zero, List.nil_append, ← hne,
    bne_self_eq_false]
  split
  · rename_i hnil
    rw [if_pos hnil]
  · rename_i hnil
    rw [if_neg hnil]

lemma normalize_again (p : Text) : normalize (normalize p) = normalize p := by
  by_cases hp : p.head? = some '/'
  · exact (isAnchored_normalize hp).normal
  · have hhead : (normalize p).head? ≠ some '/' := fun h => hp (rooted_of_normalize h)
    have hnormal := normalize_of_not_rooted hp
    by_cases hnil : components false p = []
    · rw [if_pos hnil] at hnormal
      rw [hnormal]
      rfl
    · rw [if_neg hnil] at hnormal
      have hcomp : components false (normalize p) = components false p := by
        rw [hnormal, components_intercalate]
      rw [normalize_of_not_rooted hhead, hcomp, if_neg hnil, hnormal]

lemma collapse_intercalate {cs : List Text} (h : ∀ c ∈ cs, c ≠ [] ∧ '/' ∉ c) :
    collapse (['/'].intercalate cs) = ['/'].intercalate cs := by
  induction cs with
  | nil => rfl
  | cons c cs ih =>
    have hc := (h c (by simp)).2
    have hcs : ∀ x ∈ cs, x ≠ [] ∧ '/' ∉ x := fun x hx => h x (by simp [hx])
    cases cs with
    | nil =>
      have happ := collapse_append (s := []) hc
      simpa [collapse] using happ
    | cons d cs =>
      have hhead := head_intercalate (d :: cs) hcs
      rw [List.intercalate_cons_cons, List.append_assoc, collapse_append hc, List.singleton_append,
        collapse, if_neg (by simpa using hhead), ih hcs]

lemma collapse_normalize {p : Text} (h : (normalize p).head? ≠ some '/') :
    collapse (normalize p) = normalize p := by
  have hp : p.head? ≠ some '/' := fun hp => h (isAnchored_normalize hp).rooted
  rw [normalize_of_not_rooted hp]
  split
  · rfl
  · exact collapse_intercalate (components_isPart false p)

/-- Absolute, and free of what tidying takes out of a path on a drive. -/
structure IsLocated (p : Text) : Prop where
  absolute : isAbsolute p = true
  tidied : isDriveRooted p = true → '\\' ∉ p ∧ '"' ∉ p

lemma collapse_resolve {cwd base p : Text} (h : (resolve cwd base p).head? ≠ some '/') :
    collapse (resolve cwd base p) = resolve cwd base p := by
  rw [resolve] at h ⊢
  split
  · rename_i hd
    rw [if_pos hd] at h
    exact collapse_tidy h
  · rename_i hd
    rw [if_neg hd] at h
    split
    · rename_i ha
      rw [if_pos ha] at h
      exact collapse_normalize h
    · rename_i ha
      rw [if_neg ha] at h
      exact collapse_normalize h

lemma normalize_resolve {cwd base p : Text} (h : isDriveRooted p = false) :
    normalize (resolve cwd base p) = resolve cwd base p := by
  rw [resolve, h, if_neg (by simp)]
  split
  · exact normalize_again p
  · exact normalize_again _

lemma head_of_isDriveRooted {p : Text} (h : isDriveRooted p = true) : p.head? ≠ some '/' := by
  unfold isDriveRooted at h
  split at h
  · have hletter := (ne_of_isAlpha (Bool.and_eq_true_iff.mp h).1).1
    simpa using hletter
  · simp at h

lemma isDriveRooted_of_isAbsolute {p : Text} (h : isAbsolute p = true) (hslash : p.head? ≠ some '/')
    (hback : '\\' ∉ p) : isDriveRooted p = true := by
  have hhead : p.head? ≠ some '\\' := fun hs => hback (List.mem_of_mem_head? hs)
  simpa [isAbsolute, hslash, hhead] using h

lemma resolve_of_isAnchored (cwd base : Text) {p : Text} (hp : IsAnchored p) :
    resolve cwd base p = p := by
  have hd : isDriveRooted p = false := by
    by_contra hd
    exact head_of_isDriveRooted (Bool.not_eq_false _ ▸ hd) hp.rooted
  rw [resolve, if_neg (by simp [hd]), if_pos (by simp [isAbsolute, hp.rooted]), hp.normal]

lemma resolve_resolve {cwd base p : Text} (hl : IsLocated (resolve cwd base p))
    (hs : Text.strip (resolve cwd base p) = resolve cwd base p) :
    resolve cwd base (resolve cwd base p) = resolve cwd base p := by
  by_cases hd : isDriveRooted (resolve cwd base p) = true
  · obtain ⟨hback, hquote⟩ := hl.tidied hd
    have hhead := head_of_isDriveRooted hd
    conv_lhs => rw [resolve]
    rw [if_pos hd]
    exact tidy_eq_self hs hhead hback hquote (collapse_resolve hhead)
  · have hp : isDriveRooted p = false := by
      by_contra hp
      rw [Bool.not_eq_false] at hp
      have htidy : resolve cwd base p = tidy p := by rw [resolve, if_pos hp]
      apply hd
      rw [htidy] at hl ⊢
      exact isDriveRooted_of_isAbsolute hl.absolute (head_tidy hp) (not_back_mem_tidy p)
    conv_lhs => rw [resolve]
    rw [if_neg hd, if_pos hl.absolute]
    exact normalize_resolve hp

end SketchBuild.Path
