import SketchBuild.Proofs.Database.Forms

/-! Old entries are carried over one by one. What a merge has carried over after some of them is
told by these entries alone: the first form of each file, and how many were kept and dropped. -/

namespace SketchBuild.Database

open SketchBuild.Path (storageKey IsAnchored)

variable (d : Disk) (task : MergeTask) (index : ProjectIndex)

/-- What is carried over for an old entry: the fresh entry for its file, or its own form while the
file is there. -/
def carried? (fresh : Table (Text × Text) Entry) (e : Entry) : Option Entry :=
  (target? d task index e).bind fun target =>
    (Table.find? (storageKey target) fresh).or
      (if d.isFile target then some (oldForm d e target) else none)

variable {d task index} {fresh : Table (Text × Text) Entry}

lemma key_of_find? (hf : Table.IsKeyed Entry.key fresh) {k : Text × Text} {e : Entry}
    (h : Table.find? k fresh = some e) : e.key = k := by
  rw [Table.find?_of_isKeyed Entry.key hf] at h
  simpa using List.find?_some h

lemma key_of_carried? (hf : Table.IsKeyed Entry.key fresh) {e s : Entry} {target : Text}
    (ht : target? d task index e = some target) (hs : carried? d task index fresh e = some s) :
    s.key = storageKey target := by
  rw [carried?, ht, Option.bind_some] at hs
  cases hfind : Table.find? (storageKey target) fresh with
  | some f =>
    rw [hfind, Option.some_or] at hs
    obtain rfl := Option.some.inj hs
    exact key_of_find? hf hfind
  | none =>
    rw [hfind, Option.none_or] at hs
    split at hs
    · obtain rfl := Option.some.inj hs
      exact key_oldForm e target
    · simp at hs

lemma isSome_carried? {e : Entry} {target : Text} (ht : target? d task index e = some target) :
    (carried? d task index fresh e).isSome = true ↔
      (Table.find? (storageKey target) fresh).isSome = true ∨ d.isFile target = true := by
  rw [carried?, ht, Option.bind_some, Option.isSome_or, Bool.or_eq_true]
  cases d.isFile target <;> simp

lemma exists_target_of_carried? {e s : Entry} (hs : carried? d task index fresh e = some s) :
    ∃ target, target? d task index e = some target := by
  cases ht : target? d task index e with
  | none => simp [carried?, ht] at hs
  | some target => exact ⟨target, rfl⟩

lemma value_carry (c : Carried) (e : Entry) :
    (carry d task index fresh c e).value =
      match target? d task index e with
      | none => { c with dropped := c.dropped + 1 }
      | some target =>
        if storageKey target ∈ c.entries.map Entry.key then c
        else match Table.find? (storageKey target) fresh with
          | some f => { c with entries := c.entries ++ [f] }
          | none =>
            if d.isFile target then
              { c with entries := c.entries ++ [oldForm d e target], kept := c.kept + 1 }
            else { c with dropped := c.dropped + 1 } := by
  rw [carry, Noted.value_bind, value_projectFile?]
  cases target? d task index e with
  | none => rfl
  | some target =>
    rw [Option.map_some]
    dsimp only
    have hkey : (oldForm d e target).key = storageKey target := key_oldForm e target
    rw [← oldForm, ← hkey]
    by_cases hmem : (oldForm d e target).key ∈ c.entries.map Entry.key
    · rw [if_pos hmem, if_pos hmem]
      rfl
    · rw [if_neg hmem, if_neg hmem]
      cases Table.find? (oldForm d e target).key fresh with
      | some f => rfl
      | none =>
        simp only [Storage.isFile, Noted.value_bind, Noted.value_pure]
        cases d.isFile target <;> rfl

variable (d task index fresh) in
structure Carries (es : List Entry) (c : Carried) : Prop where
  entries : c.entries = Table.firsts Entry.key (es.filterMap (carried? d task index fresh))
  kept : c.kept = c.entries.countP fun e => (Table.find? e.key fresh).isNone
  dropped : c.dropped = es.countP fun e => (carried? d task index fresh e).isNone

lemma carries_nil : Carries d task index fresh [] {} := ⟨rfl, rfl, rfl⟩

lemma Carries.isSome_of_mem {es : List Entry} {c : Carried} (h : Carries d task index fresh es c)
    (hb : task.boundary.IsRooted) (hi : IsAnchoredIndex index)
    (hf : Table.IsKeyed Entry.key fresh) {e : Entry} {target : Text}
    (ht : target? d task index e = some target)
    (hmem : storageKey target ∈ c.entries.map Entry.key) :
    (carried? d task index fresh e).isSome = true := by
  rw [h.entries, Table.mem_map_firsts] at hmem
  obtain ⟨s, hs, hkey⟩ := List.mem_map.mp hmem
  obtain ⟨e', _, he'⟩ := List.mem_filterMap.mp hs
  obtain ⟨target', ht'⟩ := exists_target_of_carried? he'
  have hsame : target' = target := by
    apply target_eq_of_storageKey hb hi ht' ht
    rw [← key_of_carried? hf ht' he', hkey]
  have hsome : (Table.find? (storageKey target') fresh).isSome = true ∨ d.isFile target' = true := by
    apply (isSome_carried? ht').mp
    rw [he']
    rfl
  rw [hsame] at hsome
  exact (isSome_carried? ht).mpr hsome

lemma Carries.skip {es : List Entry} {c : Carried} (h : Carries d task index fresh es c)
    {e s : Entry} (hs : carried? d task index fresh e = some s)
    (hmem : s.key ∈ c.entries.map Entry.key) : Carries d task index fresh (es ++ [e]) c := by
  refine ⟨?_, h.kept, ?_⟩
  · have hmem' := hmem
    rw [h.entries] at hmem'
    rw [List.filterMap_append, List.filterMap_cons_some hs, List.filterMap_nil,
      Table.firsts_concat, if_pos hmem', h.entries]
  · rw [List.countP_append, List.countP_singleton, hs, h.dropped]
    simp

lemma Carries.drop {es : List Entry} {c : Carried} (h : Carries d task index fresh es c)
    {e : Entry} (hs : carried? d task index fresh e = none) :
    Carries d task index fresh (es ++ [e]) { c with dropped := c.dropped + 1 } := by
  refine ⟨?_, h.kept, ?_⟩
  · rw [List.filterMap_append, List.filterMap_cons_none hs, List.filterMap_nil, List.append_nil,
      h.entries]
  · rw [List.countP_append, List.countP_singleton, hs, h.dropped]
    simp

lemma Carries.add {es : List Entry} {c : Carried} (h : Carries d task index fresh es c)
    {e s : Entry} (hs : carried? d task index fresh e = some s)
    (hmem : s.key ∉ c.entries.map Entry.key) {kept : Nat}
    (hkept : kept = c.kept + if (Table.find? s.key fresh).isNone then 1 else 0) :
    Carries d task index fresh (es ++ [e])
      { entries := c.entries ++ [s], kept, dropped := c.dropped } := by
  refine ⟨?_, ?_, ?_⟩
  · rw [h.entries] at hmem
    rw [List.filterMap_append, List.filterMap_cons_some hs, List.filterMap_nil,
      Table.firsts_concat, if_neg hmem, h.entries]
  · rw [List.countP_append, List.countP_singleton, hkept, h.kept]
  · rw [List.countP_append, List.countP_singleton, hs, h.dropped]
    simp

lemma carries_concat {es : List Entry} {c : Carried} (h : Carries d task index fresh es c)
    (hb : task.boundary.IsRooted) (hi : IsAnchoredIndex index)
    (hf : Table.IsKeyed Entry.key fresh) (e : Entry) :
    Carries d task index fresh (es ++ [e]) (carry d task index fresh c e).value := by
  rw [value_carry]
  cases ht : target? d task index e with
  | none => exact h.drop (by simp [carried?, ht])
  | some target =>
    dsimp only
    split
    · rename_i hmem
      obtain ⟨s, hs⟩ := Option.isSome_iff_exists.mp (h.isSome_of_mem hb hi hf ht hmem)
      apply h.skip hs
      rw [key_of_carried? hf ht hs]
      exact hmem
    · rename_i hmem
      cases hfind : Table.find? (storageKey target) fresh with
      | some f =>
        have hs : carried? d task index fresh e = some f := by
          simp [carried?, ht, hfind]
        have hkey := key_of_carried? hf ht hs
        exact h.add hs (hkey ▸ hmem) (by simp [hkey, hfind])
      | none =>
        dsimp only
        split
        · rename_i hfile
          have hs : carried? d task index fresh e = some (oldForm d e target) := by
            simp [carried?, ht, hfind, hfile]
          exact h.add hs hmem (by simp [key_oldForm, hfind])
        · rename_i hfile
          exact h.drop (by simp [carried?, ht, hfind, hfile])

lemma carries_carryAll {es : List Entry} {c : Carried} (h : Carries d task index fresh es c)
    (hb : task.boundary.IsRooted) (hi : IsAnchoredIndex index)
    (hf : Table.IsKeyed Entry.key fresh) (rest : List Entry) :
    Carries d task index fresh (es ++ rest) (carryAll d task index fresh c rest).value := by
  induction rest generalizing es c with
  | nil =>
    rw [List.append_nil]
    exact h
  | cons e rest ih =>
    have hnext := ih (carries_concat h hb hi hf e)
    rw [List.append_assoc, List.singleton_append] at hnext
    exact hnext

end SketchBuild.Database
