import SketchBuild.Proofs.Flags.Ending

/-! When following references once more changes nothing. References are cut off where a file would be read
within itself and where they lie too deep, and the next run follows these: it starts with no file being
read. So one run is enough exactly for what is nested no deeper than references are followed, and more
runs for what is nested deeper. -/

namespace SketchBuild.Flags

def expandTimes (d : Disk) (base : Text) (n : Nat) (arguments : List Text) : List Text :=
  (fun arguments => (expand d base arguments).value)^[n] arguments

/-- The references in some arguments lead through no file that is read within itself, and at most so many
files deep. -/
def IsFollowed (d : Disk) (base : Text) (depth : Nat) (arguments : List Text) : Prop :=
  ∀ ps words, Leads d base arguments ps words →
    (ps.map Path.normalize).Nodup ∧ ps.length ≤ depth

variable {d : Disk} {base : Text} {arguments : List Text}

lemma IsFollowed.isSettled {depth : Nat} (h : IsFollowed d base depth arguments)
    {ps words : List Text} (hl : Leads d base arguments ps words) {a : Text} (ha : a ∈ words)
    (hs : Stays d base (ps.map Path.normalize) a) (hdepth : depth ≤ maxDepth) :
    IsSettled d base a := by
  intro name hr hread
  obtain ⟨text, ht⟩ := Option.isSome_iff_exists.mp hread
  obtain ⟨hnodup, hlen⟩ := h _ _ (hl.next ha hr ht)
  rw [List.length_append, List.length_singleton] at hlen
  rcases hs name hr hread with hkey | hdeep
  · exact (nodup_normalize_concat.mp hnodup).1 hkey
  · rw [List.length_map] at hdeep
    omega

lemma isSettled_expand_iff :
    (∀ a ∈ (expand d base arguments).value, IsSettled d base a) ↔
      IsFollowed d base maxDepth arguments := by
  constructor
  · intro hsettled ps words hl
    induction hl with
    | start => exact ⟨List.nodup_nil, Nat.zero_le _⟩
    | @next ps words argument name text hl ha hr ht ih =>
      have hps : IsNested ps := ⟨ih.1, ih.2⟩
      have hread : IsReadable d (Path.resolve d.cwd base name) := by simp [IsReadable, ht]
      -- Else the reference to the last file would be left.
      have hnot : ¬Stays d base (ps.map Path.normalize) argument := fun hs =>
        hsettled argument (mem_expand_iff.mpr ⟨ps, words, hl, ha, hps, hs⟩) name hr hread
      have hnext : Path.normalize (Path.resolve d.cwd base name) ∉ ps.map Path.normalize ∧
          ps.length < maxDepth := by
        by_contra hcut
        apply hnot
        intro name' hr' _
        obtain rfl := Option.some.inj (hr.symm.trans hr')
        rw [List.length_map]
        by_cases hkey : Path.normalize (Path.resolve d.cwd base name) ∈ ps.map Path.normalize
        · exact Or.inl hkey
        · exact Or.inr (Nat.le_of_not_lt fun hlt => hcut ⟨hkey, hlt⟩)
      have hconcat := hps.concat hnext.1 hnext.2
      exact ⟨hconcat.nodup, hconcat.length_le⟩
  · intro h a ha
    obtain ⟨ps, words, hl, hmem, _, hs⟩ := mem_expand_iff.mp ha
    exact h.isSettled hl hmem hs (Nat.le_refl _)

lemma IsFollowed.leads_expand {depth : Nat} (h : IsFollowed d base depth arguments)
    {ps words : List Text} (hl : Leads d base (expand d base arguments).value ps words) :
    (ps = [] ∧ words = (expand d base arguments).value) ∨
      ∃ qs, qs.length = maxDepth ∧ Leads d base arguments (qs ++ ps) words := by
  induction hl with
  | start => exact Or.inl ⟨rfl, rfl⟩
  | @next ps words argument name text hl ha hr ht ih =>
    refine Or.inr ?_
    rcases ih with ⟨rfl, rfl⟩ | ⟨qs, hlen, hqs⟩
    · obtain ⟨qs, words, hqs, hmem, hnested, hs⟩ := mem_expand_iff.mp ha
      have hnext := hqs.next hmem hr ht
      have hle := hnested.length_le
      rcases hs name hr (by simp [IsReadable, ht]) with hkey | hdeep
      · exact ((nodup_normalize_concat.mp (h _ _ hnext).1).1 hkey).elim
      · rw [List.length_map] at hdeep
        exact ⟨qs, Nat.le_antisymm hle hdeep, hnext⟩
    · refine ⟨qs, hlen, ?_⟩
      rw [← List.append_assoc]
      exact hqs.next ha hr ht

lemma IsFollowed.expand {depth : Nat} (h : IsFollowed d base (depth + maxDepth) arguments) :
    IsFollowed d base depth (expand d base arguments).value := by
  intro ps words hl
  rcases h.leads_expand hl with ⟨rfl, _⟩ | ⟨qs, hlen, hqs⟩
  · exact ⟨List.nodup_nil, Nat.zero_le _⟩
  · obtain ⟨hnodup, hle⟩ := h _ _ hqs
    rw [List.map_append] at hnodup
    rw [List.length_append] at hle
    exact ⟨hnodup.of_append_right, by omega⟩

lemma IsFollowed.isSettled_expandTimes {n : Nat} (h : IsFollowed d base (n * maxDepth) arguments) :
    ∀ a ∈ expandTimes d base n arguments, IsSettled d base a := by
  induction n generalizing arguments with
  | zero =>
    intro a ha name hr hread
    obtain ⟨text, ht⟩ := Option.isSome_iff_exists.mp hread
    have hlen := (h _ _ (Leads.start.next ha hr ht)).2
    simp at hlen
  | succ n ih =>
    rw [expandTimes, Function.iterate_succ_apply]
    rw [Nat.add_one_mul] at h
    exact ih h.expand

lemma length_le_length_flatMap {α : Type} {f : α → List α} {as : List α}
    (h : ∀ a ∈ as, f a ≠ []) : as.length ≤ (as.flatMap f).length := by
  induction as with
  | nil => exact Nat.zero_le _
  | cons a as ih =>
    have ha := List.length_pos_iff.mpr (h a (by simp))
    have has := ih fun x hx => h x (by simp [hx])
    rw [List.flatMap_cons, List.length_append, List.length_cons]
    omega

lemma eq_singleton_of_flatMap_eq {α : Type} {f : α → List α} {as : List α}
    (hne : ∀ a ∈ as, f a ≠ []) (h : as.flatMap f = as) : ∀ a ∈ as, f a = [a] := by
  induction as with
  | nil => simp
  | cons a as ih =>
    have hrest : ∀ x ∈ as, f x ≠ [] := fun x hx => hne x (by simp [hx])
    have hlen := length_le_length_flatMap hrest
    obtain ⟨b, bs, hb⟩ := List.exists_cons_of_ne_nil (hne a (by simp))
    rw [List.flatMap_cons, hb, List.cons_append] at h
    obtain ⟨rfl, htail⟩ := List.cons.inj h
    have hsum := congrArg List.length htail
    rw [List.length_append] at hsum
    obtain rfl : bs = [] := List.eq_nil_of_length_eq_zero (by omega)
    intro x hx
    rcases List.mem_cons.mp hx with rfl | hx
    · exact hb
    · exact ih hrest htail x hx

lemma value_expand_flatMap (arguments : List Text) :
    (expand d base arguments).value = arguments.flatMap fun a => (expand d base [a]).value := by
  simp only [expand, value_expandWithin, List.flatMap_singleton]

/-- Following references leaves nothing to follow exactly where no file is read within itself and none
lies too deep. A second run then changes nothing, nor does any run after as many as the nesting takes.
Where a second run changes nothing although references are left that can be read, each of these stands
for itself, or one of them for nothing. -/
theorem expand_settles (d : Disk) (base : Text) (arguments : List Text) :
    ((∀ a ∈ expandTimes d base 1 arguments, IsSettled d base a) ↔
        IsFollowed d base maxDepth arguments) ∧
      (∀ n, IsFollowed d base (n * maxDepth) arguments →
        expandTimes d base (n + 1) arguments = expandTimes d base n arguments) ∧
      (expandTimes d base 2 arguments = expandTimes d base 1 arguments →
        (∀ a ∈ expandTimes d base 1 arguments, expandTimes d base 1 [a] = [a]) ∨
          ∃ a ∈ expandTimes d base 1 arguments, expandTimes d base 1 [a] = []) := by
  refine ⟨isSettled_expand_iff, ?_, ?_⟩
  · intro n h
    rw [expandTimes, Function.iterate_succ_apply']
    exact value_expand_settled h.isSettled_expandTimes
  · intro h
    by_cases hne : ∀ a ∈ expandTimes d base 1 arguments, expandTimes d base 1 [a] ≠ []
    · exact Or.inl (eq_singleton_of_flatMap_eq hne ((value_expand_flatMap _).symm.trans h))
    · simp only [not_forall, not_not, exists_prop] at hne
      exact Or.inr hne

lemma leads_mem {table : List (List Text × List Text)} (hstart : ([], arguments) ∈ table)
    (hnext : ∀ row ∈ table, ∀ argument ∈ row.2, ∀ name ∈ reference? argument,
      ∀ text ∈ Storage.fileText? d (Path.resolve d.cwd base name),
        (row.1 ++ [Path.resolve d.cwd base name], Command.words text) ∈ table)
    {ps words : List Text} (h : Leads d base arguments ps words) : (ps, words) ∈ table := by
  induction h with
  | start => exact hstart
  | next _ ha hr ht ih => exact hnext _ ih _ ha _ hr _ ht

def nestedWays : List (List Text × List Text) :=
  (List.range 11).map fun n =>
    (("ABCDEFGHIJ".toList.take n).map fun c => ['/', c],
      if n = 10 then ["-iwithprefix", "q"] else [['@', Char.ofNat (65 + n)]])

theorem expand_settles_nested :
    IsFollowed nestedFiles "/" (2 * maxDepth) ["@A"] ∧
      ¬IsFollowed nestedFiles "/" maxDepth ["@A"] ∧
      expandTimes nestedFiles "/" 2 ["@A"] = ["-iwithprefix", "q"] ∧
      expandTimes nestedFiles "/" 3 ["@A"] = expandTimes nestedFiles "/" 2 ["@A"] := by
  have hfollowed : IsFollowed nestedFiles "/" (2 * maxDepth) ["@A"] := by
    intro ps words h
    have hmem : (ps, words) ∈ nestedWays := leads_mem (by decide) (by decide) h
    have hall : ∀ row ∈ nestedWays,
        (row.1.map Path.normalize).Nodup ∧ row.1.length ≤ 2 * maxDepth := by decide
    exact hall _ hmem
  have hsettles := expand_settles nestedFiles "/" ["@A"]
  refine ⟨hfollowed, ?_, by decide, hsettles.2.1 2 hfollowed⟩
  intro h
  have hleft : IsSettled nestedFiles "/" "@I" := hsettles.1.mpr h "@I" (by decide)
  exact hleft "I" rfl (by unfold IsReadable; decide)

/-- A run that starts with what a run left follows a reference that leads back to its own file, and one
that lay too deep. -/
theorem expand_follows_again :
    let loop : Disk := {
      root := .dir [("a", .file (Text.Utf8.encode "@b -DA")), ("b", .file (Text.Utf8.encode "@a -DB"))]
      here := [] }
    expandTimes loop "/" 1 ["@a"] = ["@a", "-DB", "-DA"] ∧
      expandTimes loop "/" 2 ["@a"] = ["@a", "-DB", "-DA", "-DB", "-DA"] ∧
      expandTimes loop "/" 2 ["@a"] ≠ expandTimes loop "/" 1 ["@a"] ∧
      expandTimes nestedFiles "/" 2 ["@A"] ≠ expandTimes nestedFiles "/" 1 ["@A"] := by
  decide

end SketchBuild.Flags
