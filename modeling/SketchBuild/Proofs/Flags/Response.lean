import Mathlib.Data.List.Chain
import Mathlib.Logic.Relation
import Mathlib.Tactic.Lemma
import SketchBuild.Flags.Response
import SketchBuild.Proofs.Storage.Size

namespace SketchBuild.Flags

def IsReadable (d : Disk) (path : Text) : Prop := (Storage.fileText? d path).isSome = true

def RefersTo (d : Disk) (base p q : Text) : Prop :=
  ∃ text, Storage.fileText? d p = some text ∧ IsReadable d q ∧
    ∃ word ∈ Command.words text, ∃ name,
      reference? word = some name ∧ Path.resolve d.cwd base name = q

/-- No response file that can be read leads back to itself, and references nest no deeper than they
are followed. -/
structure IsGrounded (d : Disk) (base : Text) : Prop where
  acyclic : ∀ p q, Relation.TransGen (RefersTo d base) p q → Path.normalize p ≠ Path.normalize q
  shallow : ∀ ps : List Text, (∀ p ∈ ps, IsReadable d p) → ps.IsChain (RefersTo d base) →
    ps.length ≤ maxDepth

def IsSettled (d : Disk) (base argument : Text) : Prop :=
  ∀ name, reference? argument = some name → ¬ IsReadable d (Path.resolve d.cwd base name)

variable {d : Disk} {base : Text}

lemma reference?_eq_none {argument : Text} (h : argument.head? ≠ some '@') :
    reference? argument = none := by
  unfold reference?
  split <;> simp_all

lemma isSettled_of_head {argument : Text} (h : argument.head? ≠ some '@') :
    IsSettled d base argument := by
  intro name hname
  simp [reference?_eq_none h] at hname

lemma fileText?_eq_none {path : Text} (h : ¬ IsReadable d path) :
    Storage.fileText? d path = none := by
  simpa [IsReadable] using h

lemma value_expandArgument_settled {argument : Text} (h : IsSettled d base argument)
    (reading : List Text) (nested : Option (List Text → List Text → Noted (List Text))) :
    (expandArgument d base reading nested argument).value = [argument] := by
  cases hr : reference? argument with
  | none => simp [expandArgument, hr]
  | some name =>
    have ht := fileText?_eq_none (h name hr)
    cases nested with
    | none => simp [expandArgument, hr, expandArgument.refuse]
    | some expand =>
      simp only [expandArgument, hr]
      split
      · rfl
      · simp [Storage.value_readText, ht]

lemma value_expandArgument_followed {argument name text : Text} {reading : List Text}
    (hr : reference? argument = some name)
    (hkey : Path.normalize (Path.resolve d.cwd base name) ∉ reading)
    (ht : Storage.fileText? d (Path.resolve d.cwd base name) = some text)
    (expand : List Text → List Text → Noted (List Text)) :
    (expandArgument d base reading (some expand) argument).value =
      (expand (reading ++ [Path.normalize (Path.resolve d.cwd base name)])
        (Command.words text)).value := by
  simp [expandArgument, hr, hkey, Storage.value_readText, ht]

lemma flatMap_singleton_of_eq {α : Type} (f : α → List α) (as : List α)
    (h : ∀ a ∈ as, f a = [a]) : as.flatMap f = as := by
  induction as with
  | nil => rfl
  | cons a as ih =>
    rw [List.flatMap_cons, h a (by simp), ih fun x hx => h x (by simp [hx])]
    rfl

lemma value_expand_settled {arguments : List Text} (h : ∀ a ∈ arguments, IsSettled d base a) :
    (expand d base arguments).value = arguments := by
  rw [expand]
  generalize maxDepth = n
  cases n with
  | zero =>
    rw [expandWithin, Noted.value_flatMap]
    exact flatMap_singleton_of_eq _ _ fun a ha => value_expandArgument_settled (h a ha) _ _
  | succ n =>
    rw [expandWithin, Noted.value_flatMap]
    exact flatMap_singleton_of_eq _ _ fun a ha => value_expandArgument_settled (h a ha) _ _

lemma transGen_of_isChain {α : Type} {R : α → α → Prop} {as : List α} {a : α}
    (h : (as ++ [a]).IsChain R) {b : α} (hb : b ∈ as) : Relation.TransGen R b a := by
  have ht : (as ++ [a]).IsChain (Relation.TransGen R) := h.imp fun _ _ => Relation.TransGen.single
  exact (List.pairwise_append.mp ht.pairwise).2.2 b hb a (by simp)

lemma exists_of_not_isSettled {argument : Text} (h : ¬ IsSettled d base argument) :
    ∃ name text, reference? argument = some name ∧
      Storage.fileText? d (Path.resolve d.cwd base name) = some text := by
  simp only [IsSettled, not_forall, not_not, exists_prop] at h
  obtain ⟨name, hr, hread⟩ := h
  obtain ⟨text, ht⟩ := Option.isSome_iff_exists.mp hread
  exact ⟨name, text, hr, ht⟩

/-- The files that are being read form a chain, each referring to the next one, and so do they with
any file that can be read and is referred to next. -/
def IsReading (d : Disk) (base : Text) (ps arguments : List Text) : Prop :=
  (∀ p ∈ ps, IsReadable d p) ∧
    ∀ argument ∈ arguments, ∀ name, reference? argument = some name →
      IsReadable d (Path.resolve d.cwd base name) →
      (ps ++ [Path.resolve d.cwd base name]).IsChain (RefersTo d base)

lemma isReading_nil (arguments : List Text) : IsReading d base [] arguments :=
  ⟨by simp, fun _ _ _ _ _ => List.IsChain.singleton _⟩

lemma IsReading.next {ps arguments : List Text} (h : IsReading d base ps arguments)
    {argument name text : Text} (ha : argument ∈ arguments) (hr : reference? argument = some name)
    (ht : Storage.fileText? d (Path.resolve d.cwd base name) = some text) :
    IsReading d base (ps ++ [Path.resolve d.cwd base name]) (Command.words text) := by
  have hread : IsReadable d (Path.resolve d.cwd base name) := by simp [IsReadable, ht]
  refine ⟨?_, ?_⟩
  · intro p hp
    rcases List.mem_append.mp hp with hp | hp
    · exact h.1 p hp
    · rwa [List.mem_singleton.mp hp]
  · intro word hw name' hr' hread'
    refine List.isChain_append.mpr ⟨h.2 argument ha name hr hread, List.IsChain.singleton _, ?_⟩
    intro p hp q hq
    obtain rfl : Path.resolve d.cwd base name = p := by simpa using hp
    obtain rfl : Path.resolve d.cwd base name' = q := by simpa using hq
    exact ⟨text, ht, hread', word, hw, name', hr', rfl⟩

lemma value_expandWithin_isSettled (hg : IsGrounded d base) (n : Nat) (ps arguments : List Text)
    (hdepth : ps.length + n = maxDepth) (h : IsReading d base ps arguments) :
    ∀ a ∈ (expandWithin d base n (ps.map Path.normalize) arguments).value, IsSettled d base a := by
  induction n generalizing ps arguments with
  | zero =>
    rw [expandWithin, Noted.value_flatMap]
    intro a ha
    obtain ⟨b, hb, ha⟩ := List.mem_flatMap.mp ha
    by_cases hs : IsSettled d base b
    · rw [value_expandArgument_settled hs, List.mem_singleton] at ha
      rwa [ha]
    · -- One more file would make the chain longer than references are followed.
      obtain ⟨name, text, hr, ht⟩ := exists_of_not_isSettled hs
      have hnext := h.next hb hr ht
      have hread : IsReadable d (Path.resolve d.cwd base name) := by simp [IsReadable, ht]
      have hlen := hg.shallow _ hnext.1 (h.2 b hb name hr hread)
      simp only [List.length_append, List.length_singleton] at hlen
      omega
  | succ n ih =>
    rw [expandWithin, Noted.value_flatMap]
    intro a ha
    obtain ⟨b, hb, ha⟩ := List.mem_flatMap.mp ha
    by_cases hs : IsSettled d base b
    · rw [value_expandArgument_settled hs, List.mem_singleton] at ha
      rwa [ha]
    · obtain ⟨name, text, hr, ht⟩ := exists_of_not_isSettled hs
      have hread : IsReadable d (Path.resolve d.cwd base name) := by simp [IsReadable, ht]
      have hkey : Path.normalize (Path.resolve d.cwd base name) ∉ ps.map Path.normalize := by
        intro hmem
        obtain ⟨p, hp, hpq⟩ := List.mem_map.mp hmem
        exact hg.acyclic p _ (transGen_of_isChain (h.2 b hb name hr hread) hp) hpq
      rw [value_expandArgument_followed hr hkey ht, ← List.map_singleton, ← List.map_append] at ha
      exact ih _ _ (by simp; omega) (h.next hb hr ht) a ha

lemma value_expand_isSettled (hg : IsGrounded d base) (arguments : List Text) :
    ∀ a ∈ (expand d base arguments).value, IsSettled d base a :=
  value_expandWithin_isSettled hg maxDepth [] arguments (by simp) (isReading_nil arguments)

lemma isGrounded_of_words (h : ∀ word ∈ d.root.words, reference? word = none) :
    IsGrounded d base := by
  have hnot : ∀ p q, ¬RefersTo d base p q := by
    rintro p q ⟨text, ht, _, word, hw, name, hr, _⟩
    rw [h word ((Storage.words_sublist ht).subset hw)] at hr
    simp at hr
  refine ⟨?_, ?_⟩
  · intro p q hpq
    cases hpq with
    | single h => exact (hnot _ _ h).elim
    | tail _ h => exact (hnot _ _ h).elim
  · intro ps _ hchain
    match ps, hchain with
    | [], _ => exact Nat.zero_le _
    | [_], _ => exact Nat.succ_le_succ (Nat.zero_le 7)
    | _ :: _ :: _, hchain => exact (hnot _ _ (List.isChain_cons_cons.mp hchain).1).elim

lemma value_expand_cons {argument : Text} (h : argument.head? ≠ some '@') (arguments : List Text) :
    (expand d base (argument :: arguments)).value =
      argument :: (expand d base arguments).value := by
  have hs : IsSettled d base argument := isSettled_of_head h
  rw [expand, expand]
  generalize maxDepth = n
  cases n with
  | zero => simp [expandWithin, Noted.value_flatMap, value_expandArgument_settled hs]
  | succ n => simp [expandWithin, Noted.value_flatMap, value_expandArgument_settled hs]

end SketchBuild.Flags
