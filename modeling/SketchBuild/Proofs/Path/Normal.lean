import Mathlib.Data.List.Basic
import Mathlib.Tactic.Lemma
import SketchBuild.Path.Resolve

namespace SketchBuild.Path

structure IsName (c : Text) : Prop where
  ne_nil : c ≠ []
  no_slash : '/' ∉ c
  ne_dot : c ≠ ['.']
  ne_dots : c ≠ ['.', '.']

structure IsAnchored (p : Text) : Prop where
  rooted : p.head? = some '/'
  normal : normalize p = p

def spell (slashes : Nat) (names : List Text) : Text :=
  List.replicate slashes '/' ++ ['/'].intercalate names

lemma extend_cons_ne_nil (v : Text) (ws : List Text) : Text.extend v ws ≠ [] := by
  cases ws <;> simp [Text.extend]

lemma pieces_ne_nil (sep : Char) (s : Text) : Text.pieces sep s ≠ [] := by
  cases s with
  | nil => simp [Text.pieces]
  | cons c s =>
    simp only [Text.pieces]
    split
    · simp
    · exact extend_cons_ne_nil _ _

lemma not_mem_of_mem_pieces (sep : Char) (s c : Text) (h : c ∈ Text.pieces sep s) : sep ∉ c := by
  induction s generalizing c with
  | nil => simp_all [Text.pieces]
  | cons a s ih =>
    simp only [Text.pieces] at h
    split at h
    · rcases List.mem_cons.mp h with rfl | hc
      · simp
      · exact ih c hc
    · rename_i ha
      cases hp : Text.pieces sep s with
      | nil => exact (pieces_ne_nil sep s hp).elim
      | cons w ws =>
        simp only [hp, Text.extend, List.mem_cons] at h
        rcases h with rfl | hc
        · have hw := ih w (by simp [hp])
          simpa [Ne.symm ha] using hw
        · exact ih c (by simp [hp, hc])

lemma mem_of_mem_pieces {sep a : Char} {s c : Text} (h : c ∈ Text.pieces sep s) (ha : a ∈ c) :
    a ∈ s := by
  induction s generalizing c with
  | nil => simp_all [Text.pieces]
  | cons b s ih =>
    simp only [Text.pieces] at h
    split at h
    · rcases List.mem_cons.mp h with rfl | hc
      · simp at ha
      · exact List.mem_cons_of_mem b (ih hc ha)
    · cases hp : Text.pieces sep s with
      | nil => exact (pieces_ne_nil sep s hp).elim
      | cons w ws =>
        simp only [hp, Text.extend, List.mem_cons] at h
        rcases h with rfl | hc
        · rcases List.mem_append.mp ha with hb | hw
          · exact List.mem_cons.mpr (Or.inl (List.mem_singleton.mp hb))
          · exact List.mem_cons_of_mem b (ih (by simp [hp]) hw)
        · exact List.mem_cons_of_mem b (ih (by simp [hp, hc]) ha)

lemma pieces_append (sep : Char) (c s : Text) (hc : sep ∉ c) :
    Text.pieces sep (c ++ s) = Text.extend c (Text.pieces sep s) := by
  induction c with
  | nil =>
    cases hp : Text.pieces sep s with
    | nil => exact (pieces_ne_nil sep s hp).elim
    | cons w ws => simp [hp, Text.extend]
  | cons a c ih =>
    have ha : a ≠ sep := by
      rintro rfl
      simp at hc
    rw [List.cons_append, Text.pieces, if_neg ha, ih (by simp_all)]
    cases Text.pieces sep s <;> simp [Text.extend]

lemma pieces_intercalate (sep : Char) (cs : List Text) (hne : cs ≠ []) (h : ∀ c ∈ cs, sep ∉ c) :
    Text.pieces sep ([sep].intercalate cs) = cs := by
  induction cs with
  | nil => exact (hne rfl).elim
  | cons c cs ih =>
    have hc := h c (by simp)
    cases cs with
    | nil =>
      have hp := pieces_append sep c [] hc
      simpa [Text.pieces, Text.extend] using hp
    | cons d cs =>
      rw [List.intercalate_cons_cons, List.append_assoc, pieces_append sep c _ hc,
        List.singleton_append, Text.pieces, if_pos rfl, ih (by simp) fun x hx => h x (by simp [hx])]
      simp [Text.extend]

@[simp] lemma push_nil (rooted : Bool) (stack : List Text) : push rooted stack [] = stack := by
  simp [push]

lemma push_name (rooted : Bool) (stack : List Text) {c : Text} (hc : IsName c) :
    push rooted stack c = c :: stack := by
  simp [push, hc.ne_nil, hc.ne_dot, hc.ne_dots]

lemma foldl_push_names (rooted : Bool) (cs stack : List Text) (h : ∀ c ∈ cs, IsName c) :
    cs.foldl (push rooted) stack = cs.reverse ++ stack := by
  induction cs generalizing stack with
  | nil => rfl
  | cons c cs ih =>
    rw [List.foldl_cons, push_name rooted stack (h c (by simp)), ih _ fun x hx => h x (by simp [hx])]
    simp

lemma push_isName (stack : List Text) (part : Text) (hp : '/' ∉ part)
    (hs : ∀ c ∈ stack, IsName c) : ∀ c ∈ push true stack part, IsName c := by
  intro c hc
  simp only [push] at hc
  split at hc
  · exact hs c hc
  · rename_i hempty
    simp only [Bool.or_eq_true, decide_eq_true_eq, not_or] at hempty
    split at hc
    · cases stack with
      | nil => simp at hc
      | cons top below =>
        have ht := (hs top (by simp)).ne_dots
        simp only [ht, if_false] at hc
        exact hs c (by simp [hc])
    · rename_i hdots
      rcases List.mem_cons.mp hc with rfl | hc
      · exact ⟨hempty.1, hp, hempty.2, hdots⟩
      · exact hs c hc

lemma forall_mem_components (rooted : Bool) (P : Text → Prop)
    (hstep : ∀ stack part, '/' ∉ part → (∀ c ∈ stack, P c) → ∀ c ∈ push rooted stack part, P c)
    (p : Text) : ∀ c ∈ components rooted p, P c := by
  have hfold : ∀ parts stack : List Text, (∀ c ∈ parts, '/' ∉ c) → (∀ c ∈ stack, P c) →
      ∀ c ∈ parts.foldl (push rooted) stack, P c := by
    intro parts
    induction parts with
    | nil => exact fun stack _ hs => hs
    | cons part parts ih =>
      intro stack hp hs
      exact ih _ (fun c hc => hp c (by simp [hc])) (hstep stack part (hp part (by simp)) hs)
  intro c hc
  rw [components, List.mem_reverse] at hc
  exact hfold _ [] (fun x hx => not_mem_of_mem_pieces '/' p x hx) (by simp) c hc

lemma components_isName (p : Text) : ∀ c ∈ components true p, IsName c :=
  forall_mem_components true IsName push_isName p

lemma foldl_push_slashes (rooted : Bool) (n : Nat) (s : Text) (stack : List Text) :
    (Text.pieces '/' (List.replicate n '/' ++ s)).foldl (push rooted) stack =
      (Text.pieces '/' s).foldl (push rooted) stack := by
  induction n with
  | zero => rfl
  | succ n ih => simp [List.replicate_succ, Text.pieces, ih]

lemma components_spell (rooted : Bool) (n : Nat) (cs : List Text) (h : ∀ c ∈ cs, IsName c) :
    components rooted (spell n cs) = cs := by
  rw [components, spell, foldl_push_slashes]
  cases cs with
  | nil => simp [Text.pieces]
  | cons c cs =>
    rw [pieces_intercalate '/' _ (by simp) fun x hx => (h x hx).no_slash,
      foldl_push_names rooted _ [] h]
    simp

lemma head_intercalate (cs : List Text) (h : ∀ c ∈ cs, c ≠ [] ∧ '/' ∉ c) :
    (['/'].intercalate cs).head? ≠ some '/' := by
  cases cs with
  | nil => simp
  | cons c cs =>
    obtain ⟨hne, hslash⟩ := h c (by simp)
    have hhead : (['/'].intercalate (c :: cs)).head? = c.head? := by
      cases c with
      | nil => exact (hne rfl).elim
      | cons a c => cases cs <;> simp
    rw [hhead]
    intro hs
    exact hslash (List.mem_of_mem_head? hs)

def IsRoot (n : Nat) : Prop := n = 1 ∨ n = 2

lemma rootSlashes_spell {n : Nat} (hn : IsRoot n) (cs : List Text) (h : ∀ c ∈ cs, IsName c) :
    rootSlashes (spell n cs) = n := by
  have hs := head_intercalate cs fun c hc => ⟨(h c hc).ne_nil, (h c hc).no_slash⟩
  rw [spell]
  generalize ['/'].intercalate cs = s at hs
  cases s with
  | nil => rcases hn with rfl | rfl <;> rfl
  | cons a s =>
    have ha : a ≠ '/' := by simpa using hs
    rcases hn with rfl | rfl <;> simp [List.replicate, rootSlashes, ha]

lemma spell_injective {n m : Nat} {cs ds : List Text} (hn : IsRoot n) (hm : IsRoot m)
    (hcs : ∀ c ∈ cs, IsName c) (hds : ∀ c ∈ ds, IsName c) (h : spell n cs = spell m ds) :
    n = m ∧ cs = ds := by
  have hslashes := congrArg rootSlashes h
  have hnames := congrArg (components true) h
  rw [rootSlashes_spell hn cs hcs, rootSlashes_spell hm ds hds] at hslashes
  rw [components_spell true n cs hcs, components_spell true m ds hds] at hnames
  exact ⟨hslashes, hnames⟩

lemma isRoot_rootSlashes {p : Text} (h : p.head? = some '/') : IsRoot (rootSlashes p) := by
  cases p with
  | nil => simp at h
  | cons c p =>
    obtain rfl : c = '/' := by simpa using h
    unfold rootSlashes IsRoot
    split <;> simp_all

lemma IsRoot.ne_zero {n : Nat} (hn : IsRoot n) : n ≠ 0 := by
  rcases hn with rfl | rfl <;> simp

lemma spell_ne_nil {n : Nat} (hn : IsRoot n) (cs : List Text) : spell n cs ≠ [] := by
  rcases hn with rfl | rfl <;> simp [spell, List.replicate]

lemma normalize_of_rooted {p : Text} (h : p.head? = some '/') :
    normalize p = spell (rootSlashes p) (components true p) := by
  have hr := isRoot_rootSlashes h
  have hz : (rootSlashes p != 0) = true := by simp [hr.ne_zero]
  have hne := spell_ne_nil hr (components true p)
  simp only [normalize, hz]
  rw [spell] at hne
  split
  · exact (hne ‹_›).elim
  · rfl

lemma head_spell {n : Nat} (hn : IsRoot n) (cs : List Text) : (spell n cs).head? = some '/' := by
  rcases hn with rfl | rfl <;> rfl

lemma isAnchored_spell {n : Nat} (hn : IsRoot n) (cs : List Text) (h : ∀ c ∈ cs, IsName c) :
    IsAnchored (spell n cs) where
  rooted := head_spell hn cs
  normal := by
    rw [normalize_of_rooted (head_spell hn cs), rootSlashes_spell hn cs h,
      components_spell true n cs h]

lemma isAnchored_normalize {p : Text} (h : p.head? = some '/') : IsAnchored (normalize p) := by
  rw [normalize_of_rooted h]
  exact isAnchored_spell (isRoot_rootSlashes h) _ (components_isName p)

lemma IsAnchored.exists_spell {p : Text} (h : IsAnchored p) :
    ∃ n cs, IsRoot n ∧ (∀ c ∈ cs, IsName c) ∧ p = spell n cs :=
  ⟨rootSlashes p, components true p, isRoot_rootSlashes h.rooted, components_isName p,
    h.normal.symm.trans (normalize_of_rooted h.rooted)⟩

lemma push_isPart (rooted : Bool) (stack : List Text) (part : Text) (hp : '/' ∉ part)
    (hs : ∀ c ∈ stack, c ≠ [] ∧ '/' ∉ c) : ∀ c ∈ push rooted stack part, c ≠ [] ∧ '/' ∉ c := by
  intro c hc
  simp only [push] at hc
  split at hc
  · exact hs c hc
  · rename_i hempty
    simp only [Bool.or_eq_true, decide_eq_true_eq, not_or] at hempty
    have hpart : part ≠ [] ∧ '/' ∉ part := ⟨hempty.1, hp⟩
    split at hc
    · cases stack with
      | nil =>
        cases rooted
        · simp_all
        · simp at hc
      | cons top below =>
        split at hc
        all_goals
          simp only [List.mem_cons] at hc hs
          grind
    · rcases List.mem_cons.mp hc with rfl | hc
      · exact hpart
      · exact hs c hc

lemma components_isPart (rooted : Bool) (p : Text) :
    ∀ c ∈ components rooted p, c ≠ [] ∧ '/' ∉ c :=
  forall_mem_components rooted (fun c => c ≠ [] ∧ '/' ∉ c) (push_isPart rooted) p

lemma rooted_of_normalize {p : Text} (h : (normalize p).head? = some '/') : p.head? = some '/' := by
  by_contra hp
  have hz : rootSlashes p = 0 := by
    unfold rootSlashes
    split <;> simp_all
  simp only [normalize, hz, List.replicate_zero, List.nil_append] at h
  split at h
  · simp at h
  · exact head_intercalate _ (components_isPart _ p) h

end SketchBuild.Path
