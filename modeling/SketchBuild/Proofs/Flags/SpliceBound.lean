import Mathlib.Algebra.Group.Nat.Defs
import Mathlib.Data.Finset.Card
import SketchBuild.Proofs.Flags.Splices
import SketchBuild.Proofs.Storage.Size

/-! Replacing references never ends, or ends within the bound. A reference that comes up again among
the arguments that took its place would take more replacements than itself; so references are nested
no deeper than there are words. -/

namespace SketchBuild.Flags

open scoped Classical

variable {d : Disk} {base : Text}

lemma value_expandArgument_cases (d : Disk) (base : Text) (reading : List Text)
    (nested : Option (List Text → List Text → Noted (List Text))) (argument : Text) :
    (expandArgument d base reading nested argument).value = [argument] ∨
      ∃ e inner path text, nested = some e ∧ Storage.fileText? d path = some text ∧
        (expandArgument d base reading nested argument).value =
          (e inner (Command.words text)).value := by
  cases hr : reference? argument with
  | none =>
    left
    simp only [expandArgument, hr, Noted.value_pure]
  | some name =>
    cases nested with
    | none =>
      left
      simp only [expandArgument, hr, expandArgument.refuse, Noted.value_bind, Noted.value_pure]
    | some e =>
      by_cases hkey : Path.normalize (Path.resolve d.cwd base name) ∈ reading
      · left
        simp only [expandArgument, hr, if_pos hkey, expandArgument.refuse, Noted.value_bind,
          Noted.value_pure]
      · cases ht : Storage.fileText? d (Path.resolve d.cwd base name) with
        | none =>
          left
          simp only [expandArgument, hr, if_neg hkey, Noted.value_bind, Storage.value_readText, ht,
            Noted.value_pure]
        | some text =>
          right
          exact ⟨e, _, _, text, rfl, ht, value_expandArgument_followed hr hkey ht e⟩

lemma mem_expandWithin (n : Nat) (reading : List Text) {arguments : List Text} {b : Text}
    (h : b ∈ (expandWithin d base n reading arguments).value) :
    b ∈ arguments ∨ b ∈ d.root.words := by
  induction n generalizing reading arguments with
  | zero =>
    rw [expandWithin, Noted.value_flatMap] at h
    obtain ⟨a, ha, hb⟩ := List.mem_flatMap.mp h
    rcases value_expandArgument_cases d base reading none a with hv | ⟨e, _, _, _, he, _⟩
    · rw [hv, List.mem_singleton] at hb
      exact Or.inl (hb ▸ ha)
    · simp at he
  | succ n ih =>
    rw [expandWithin, Noted.value_flatMap] at h
    obtain ⟨a, ha, hb⟩ := List.mem_flatMap.mp h
    rcases value_expandArgument_cases d base reading (some (expandWithin d base n)) a with
      hv | ⟨e, inner, path, text, he, ht, hv⟩
    · rw [hv, List.mem_singleton] at hb
      exact Or.inl (hb ▸ ha)
    · obtain rfl := Option.some.inj he
      rw [hv] at hb
      rcases ih inner hb with hb | hb
      · exact Or.inr ((Storage.words_sublist ht).subset hb)
      · exact Or.inr hb

lemma length_flatMap_le {α β : Type} (f : α → List β) (w : Nat) (as : List α)
    (h : ∀ a ∈ as, (f a).length ≤ w) : (as.flatMap f).length ≤ as.length * w := by
  induction as with
  | nil => simp
  | cons a as ih =>
    have ha := h a (by simp)
    have has := ih fun x hx => h x (by simp [hx])
    rw [List.flatMap_cons, List.length_append, List.length_cons, Nat.add_one_mul]
    omega

lemma length_expandWithin (base : Text) {s : Nat} (hs : 0 < s)
    (hw : ∀ path text, Storage.fileText? d path = some text → (Command.words text).length ≤ s)
    (n : Nat) (reading arguments : List Text) :
    (expandWithin d base n reading arguments).value.length ≤ arguments.length * s ^ n := by
  induction n generalizing reading arguments with
  | zero =>
    rw [expandWithin, Noted.value_flatMap]
    apply length_flatMap_le
    intro a _
    rcases value_expandArgument_cases d base reading none a with hv | ⟨e, _, _, _, he, _⟩
    · simp [hv]
    · simp at he
  | succ n ih =>
    rw [expandWithin, Noted.value_flatMap]
    apply length_flatMap_le
    intro a _
    rcases value_expandArgument_cases d base reading (some (expandWithin d base n)) a with
      hv | ⟨e, inner, path, text, he, ht, hv⟩
    · rw [hv, List.length_singleton]
      exact Nat.one_le_pow _ _ hs
    · obtain rfl := Option.some.inj he
      rw [hv]
      calc (expandWithin d base n inner (Command.words text)).value.length
          ≤ (Command.words text).length * s ^ n := ih _ _
        _ ≤ s * s ^ n := Nat.mul_le_mul_right _ (hw path text ht)
        _ = s ^ (n + 1) := (Nat.pow_succ' ..).symm

/-- How many references one argument may replace when `k` of them may be nested and each gives way
to at most `width` arguments. -/
def cost (width : Nat) : Nat → Nat
  | 0 => 0
  | k + 1 => width * cost width k + 1

lemma cost_le_pow (width k : Nat) : cost width k ≤ (width + 1) ^ k := by
  induction k with
  | zero => simp [cost]
  | succ k ih =>
    have hpos : 0 < (width + 1) ^ k := Nat.pow_pos (Nat.succ_pos width)
    calc cost width (k + 1) = width * cost width k + 1 := rfl
      _ ≤ width * (width + 1) ^ k + (width + 1) ^ k :=
        Nat.add_le_add (Nat.mul_le_mul_left _ ih) hpos
      _ = (width + 1) ^ (k + 1) := by rw [Nat.pow_succ', Nat.add_one_mul]

lemma mul_cost_le_pow (m : Nat) {k n : Nat} (h : n ≤ k) :
    n * cost ((k + 2) ^ m) k ≤ (k + 2) ^ ((m + 1) * (k + 2)) := by
  have hpos : 0 < (k + 2) ^ m := Nat.pow_pos (Nat.succ_pos _)
  have hwidth : (k + 2) ^ m + 1 ≤ (k + 2) ^ (m + 1) := by
    have htwo : 2 * (k + 2) ^ m ≤ (k + 2) * (k + 2) ^ m :=
      Nat.mul_le_mul_right _ (Nat.le_add_left 2 k)
    rw [Nat.pow_succ']
    omega
  have hexponent : (m + 1) * k + 1 ≤ (m + 1) * (k + 2) := by
    rw [Nat.mul_add]
    omega
  calc n * cost ((k + 2) ^ m) k
      ≤ (k + 2) * ((k + 2) ^ (m + 1)) ^ k := by
        apply Nat.mul_le_mul
        · omega
        · exact (cost_le_pow _ _).trans (Nat.pow_le_pow_left hwidth k)
    _ = (k + 2) ^ ((m + 1) * k + 1) := by rw [← Nat.pow_mul, Nat.pow_succ']
    _ ≤ (k + 2) ^ ((m + 1) * (k + 2)) := Nat.pow_le_pow_right (Nat.succ_pos _) hexponent

/-- The references among some words whose arguments take fewer than `n` replacements. -/
noncomputable def cheaper (d : Disk) (base : Text) (words : Finset Text) (n : Nat) : Finset Text :=
  words.filter fun a => ∃ last m, Runs d base .on (expand d base [a]).value last m ∧ m < n

lemma cheaper_mono (words : Finset Text) {n m : Nat} (h : n ≤ m) :
    cheaper d base words n ⊆ cheaper d base words m := by
  intro a ha
  simp only [cheaper, Finset.mem_filter] at ha ⊢
  obtain ⟨hmem, last, k, hr, hk⟩ := ha
  exact ⟨hmem, last, k, hr, by omega⟩

lemma card_cheaper_lt {words : Finset Text} {a : Text} (ha : a ∈ words) {mid : Phase} {n m : Nat}
    (h : Runs d base .on (expand d base [a]).value mid n) (hm : n < m) :
    (cheaper d base words n).card < (cheaper d base words m).card := by
  apply Finset.card_lt_card
  rw [Finset.ssubset_iff_of_subset (cheaper_mono words hm.le)]
  refine ⟨a, ?_, ?_⟩
  · exact Finset.mem_filter.mpr ⟨ha, mid, n, h, hm⟩
  · -- Its arguments do not take fewer replacements than they take.
    intro hcheap
    obtain ⟨_, last, k, hk, hlt⟩ := Finset.mem_filter.mp hcheap
    obtain ⟨_, rfl⟩ := h.unique hk
    omega

lemma Runs.le_cost {words : Finset Text} {width : Nat}
    (hwords : ∀ a ∈ words, ∀ b ∈ (expand d base [a]).value, b ∈ words)
    (hwidth : ∀ a, (expand d base [a]).value.length ≤ width)
    {phase last : Phase} {arguments : List Text} {n : Nat}
    (h : Runs d base phase arguments last n) (hin : ∀ a ∈ arguments, a ∈ words) {k : Nat}
    (hk : (cheaper d base words n).card ≤ k) : n ≤ arguments.length * cost width k := by
  induction h generalizing k with
  | nil => exact Nat.zero_le _
  | @step _ _ argument rest n hnot _ ih =>
    have hrest := ih (fun a ha => hin a (by simp [ha])) hk
    rw [List.length_cons, Nat.add_one_mul]
    omega
  | @splice mid _ argument rest n m hopens hnested _ ihNested ih =>
    -- The reference is no longer one of the cheaper ones while its arguments are scanned.
    have hmem := hin argument (by simp)
    have hlt := card_cheaper_lt hmem hnested (show n < n + m + 1 by omega)
    cases k with
    | zero => omega
    | succ k =>
      have hfirst := ihNested (hwords argument hmem) (k := k) (by omega)
      have hsub : cheaper d base words m ⊆ cheaper d base words (n + m + 1) :=
        cheaper_mono words (by omega)
      have hmono := Finset.card_le_card hsub
      have hrest := ih (fun a ha => hin a (by simp [ha])) (k := k + 1) (by omega)
      have hwide := Nat.mul_le_mul_right (cost width k) (hwidth argument)
      rw [List.length_cons, Nat.add_one_mul]
      have hcost : cost width (k + 1) = width * cost width k + 1 := rfl
      omega

lemma Takes.le_spliceBound {arguments : List Text} {n : Nat}
    (h : Takes d base none arguments n) : n ≤ spliceBound d arguments := by
  obtain ⟨last, hr⟩ := h
  let words := (arguments ++ d.root.words).toFinset
  let k := d.root.size + arguments.length
  have hsize := d.root.length_words_le
  have hwords : ∀ a ∈ words, ∀ b ∈ (expand d base [a]).value, b ∈ words := by
    intro a ha b hb
    rcases mem_expandWithin maxDepth [] hb with hb | hb
    · rwa [List.mem_singleton.mp hb]
    · exact List.mem_toFinset.mpr (List.mem_append_right _ hb)
  have htext : ∀ path text, Storage.fileText? d path = some text →
      (Command.words text).length ≤ k + 2 := by
    intro path text ht
    have hlength := (Storage.words_sublist ht).length_le
    omega
  have hwidth : ∀ a, (expand d base [a]).value.length ≤ (k + 2) ^ maxDepth := by
    intro a
    have hlength := length_expandWithin base (Nat.succ_pos _) htext maxDepth [] [a]
    rwa [List.length_singleton, Nat.one_mul] at hlength
  have hk : (cheaper d base words n).card ≤ k := by
    have hfilter : (cheaper d base words n).card ≤ words.card := Finset.card_filter_le _ _
    have hcard : words.card ≤ (arguments ++ d.root.words).length := List.toFinset_card_le _
    rw [List.length_append] at hcard
    omega
  have hin : ∀ a ∈ arguments, a ∈ words := fun a ha =>
    List.mem_toFinset.mpr (List.mem_append_left _ ha)
  rw [spliceBound]
  exact (hr.le_cost hwords hwidth hin hk).trans (mul_cost_le_pow maxDepth (Nat.le_add_left _ _))

lemma isSome_resolveWithin_spliceBound {arguments : List Text} {n : Nat}
    (h : (resolveWithin d base n none arguments).value.isSome = true) :
    (resolveWithin d base (spliceBound d arguments) none arguments).value.isSome = true := by
  obtain ⟨out, hout⟩ := Option.isSome_iff_exists.mp h
  obtain ⟨m, hm⟩ := exists_takes n none hout
  exact isSome_resolveWithin hm hm.le_spliceBound

end SketchBuild.Flags
