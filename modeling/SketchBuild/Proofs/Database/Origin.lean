import SketchBuild.Proofs.Database.Upsert

namespace SketchBuild.Database

open SketchBuild.Path (storageKey)

section Last

variable (d : Disk) (task : MergeTask) (index : ProjectIndex)

def IsLast (fromBuild : List Entry) (e : Entry) (target : Text) : Prop :=
  ∃ front back, fromBuild = front ++ e :: back ∧ target? d task index e = some target ∧
    storageKey target ∉ targetKeys d task index back

variable {d task index}

lemma IsLast.find? {fromBuild : List Entry} {e : Entry} {target : Text}
    (h : IsLast d task index fromBuild e target) :
    Table.find? (storageKey target) (freshTable d task index fromBuild) =
      some (freshForm d task e target) := by
  obtain ⟨front, back, rfl, ht, hback⟩ := h
  exact find?_freshTable_last ht hback

lemma IsLast.concat {fromBuild : List Entry} {e : Entry} {target : Text}
    (h : IsLast d task index fromBuild e target) {next : Entry}
    (hnext : ∀ target', target? d task index next = some target' →
      storageKey target' ≠ storageKey target) :
    IsLast d task index (fromBuild ++ [next]) e target := by
  obtain ⟨front, back, rfl, ht, hback⟩ := h
  refine ⟨front, back ++ [next], by simp, ht, ?_⟩
  intro hmem
  obtain ⟨e', he', target', ht', hk⟩ := mem_targetKeys.mp hmem
  rcases List.mem_append.mp he' with he' | he'
  · exact hback (mem_targetKeys.mpr ⟨e', he', target', ht', hk⟩)
  · rw [List.mem_singleton.mp he'] at ht'
    exact hnext target' ht' hk

lemma exists_isLast {fromBuild : List Entry} {k : Text × Text} {f : Entry}
    (h : Table.find? k (freshTable d task index fromBuild) = some f) :
    ∃ e target, IsLast d task index fromBuild e target ∧ storageKey target = k ∧
      f = freshForm d task e target := by
  induction fromBuild using List.reverseRecOn with
  | nil => simp [freshTable, freshForms, Table.putAll, Table.find?] at h
  | append_singleton es next ih =>
    rw [freshTable, freshForms_append] at h
    cases hnext : target? d task index next with
    | none =>
      have hnil : freshForms d task index [next] = [] := by simp [freshForms, hnext]
      rw [hnil, List.append_nil] at h
      obtain ⟨e, target, hlast, hk, hf⟩ := ih h
      exact ⟨e, target, hlast.concat (by simp [hnext]), hk, hf⟩
    | some target' =>
      have hone : freshForms d task index [next] = [freshForm d task next target'] := by
        simp [freshForms, hnext]
      rw [hone, Table.putAll_concat, Table.find?_put, key_freshForm] at h
      split at h
      · rename_i hk
        obtain rfl := Option.some.inj h
        exact ⟨next, target', ⟨es, [], rfl, hnext, by simp [targetKeys, targets]⟩, hk, rfl⟩
      · rename_i hk
        obtain ⟨e, target, hlast, rfl, hf⟩ := ih h
        refine ⟨e, target, hlast.concat ?_, rfl, hf⟩
        intro target'' ht
        rw [hnext] at ht
        rwa [← Option.some.inj ht]

end Last

section Merged

variable (d : Disk) (task : MergeTask) (index : ProjectIndex) (fresh : Table (Text × Text) Entry)
variable (old : List Entry)

/-- Whether an entry of a merge is fresh, or was kept from the old ones. -/
inductive IsMerged (s : Entry) : Prop
  | fresh : Table.find? s.key fresh = some s → IsMerged s
  | kept (e : Entry) (target : Text) : e ∈ old → target? d task index e = some target →
      d.isFile target = true → Table.find? s.key fresh = none → s = oldForm d e target → IsMerged s

variable {d task index fresh old}

lemma IsMerged.eq_of_find? {s f : Entry} (h : IsMerged d task index fresh old s)
    (hf : Table.find? s.key fresh = some f) : s = f := by
  cases h with
  | fresh hs => exact Option.some.inj (hs.symm.trans hf)
  | kept e target _ _ _ hnone _ => simp [hnone] at hf

variable (hk : Table.IsKeyed Entry.key fresh)

include hk

lemma isMerged_carry {c : Carried} (hc : ∀ s ∈ c.entries, IsMerged d task index fresh old s)
    {e : Entry} (he : e ∈ old) :
    ∀ s ∈ (carry d task index fresh c e).value.entries, IsMerged d task index fresh old s := by
  have hadd : ∀ x, IsMerged d task index fresh old x →
      ∀ s ∈ c.entries ++ [x], IsMerged d task index fresh old s := by
    intro x hx s hs
    rcases List.mem_append.mp hs with hs | hs
    · exact hc s hs
    · rwa [List.mem_singleton.mp hs]
  rw [value_carry]
  cases ht : target? d task index e with
  | none => exact hc
  | some target =>
    dsimp only
    split
    · exact hc
    · cases hfind : Table.find? (storageKey target) fresh with
      | some f =>
        apply hadd
        apply IsMerged.fresh
        rw [key_of_find? hk hfind, hfind]
      | none =>
        dsimp only
        split
        · rename_i hfile
          apply hadd
          exact .kept e target he ht hfile hfind rfl
        · exact hc

lemma isMerged_carryAll {c : Carried} (hc : ∀ s ∈ c.entries, IsMerged d task index fresh old s)
    {es : List Entry} (hes : ∀ e ∈ es, e ∈ old) :
    ∀ s ∈ (carryAll d task index fresh c es).value.entries, IsMerged d task index fresh old s := by
  induction es generalizing c with
  | nil => exact hc
  | cons e es ih =>
    apply ih (isMerged_carry hk hc (hes e (by simp)))
    exact fun x hx => hes x (by simp [hx])

variable (hn : (fresh.map fun row => row.2.key).Nodup)

include hn

lemma find?_of_mem {row : (Text × Text) × Entry} (h : row ∈ fresh) :
    Table.find? row.2.key fresh = some row.2 := by
  rw [Table.find?_of_isKeyed Entry.key hk]
  apply Table.find?_of_mem
  · rwa [List.map_map]
  · exact List.mem_map_of_mem h

lemma isMerged_appendFresh {es : List Entry}
    (hes : ∀ s ∈ es, IsMerged d task index fresh old s) :
    ∀ s ∈ appendFresh fresh es, IsMerged d task index fresh old s := by
  intro s hs
  rcases List.mem_append.mp hs with hs | hs
  · exact hes s hs
  · obtain ⟨row, hrow, rfl⟩ := List.mem_map.mp hs
    exact .fresh (find?_of_mem hk hn (List.mem_filter.mp hrow).1)

omit hn in
lemma mem_appendFresh {es : List Entry} (hes : ∀ s ∈ es, IsMerged d task index fresh old s)
    {k : Text × Text} {f : Entry} (hf : Table.find? k fresh = some f) : f ∈ appendFresh fresh es := by
  have hkey := key_of_find? hk hf
  by_cases hmem : k ∈ es.map Entry.key
  · obtain ⟨s, hs, rfl⟩ := List.mem_map.mp hmem
    rw [← (hes s hs).eq_of_find? hf]
    exact List.mem_append_left _ hs
  · apply List.mem_append_right
    rw [Table.find?_of_isKeyed Entry.key hk] at hf
    obtain ⟨row, hrow, rfl⟩ := List.mem_map.mp (List.mem_of_find?_eq_some hf)
    apply List.mem_map_of_mem
    apply List.mem_filter.mpr
    refine ⟨hrow, ?_⟩
    rw [← hk row hrow, hkey]
    exact decide_eq_true hmem

end Merged

section Result

variable {d : Disk} {task : MergeTask} (source : Source) (fromBuild : List Entry)
variable (warnings : List Text) (loaded : List Entry × Option Text)

lemma entries_eq_appendFresh : ∃ es,
    (∀ s ∈ es, IsMerged d task (task.usedIndex d) (freshTable d task (task.usedIndex d) fromBuild)
      loaded.1 s) ∧
    (resultFrom d task source fromBuild warnings loaded).entries =
      appendFresh (freshTable d task (task.usedIndex d) fromBuild) es := by
  have hfresh : (collectFresh d task (task.usedIndex d) [] 0 fromBuild).value.1 =
      freshTable d task (task.usedIndex d) fromBuild := by
    rw [value_collectFresh, freshTable]
  refine ⟨(carryAll d task (task.usedIndex d) (freshTable d task (task.usedIndex d) fromBuild) {}
    loaded.1).value.entries, ?_, ?_⟩
  · apply isMerged_carryAll isKeyed_freshTable
    · simp
    · exact fun _ he => he
  · rw [resultFrom]
    dsimp only
    rw [hfresh]

lemma isMerged_resultFrom :
    ∀ s ∈ (resultFrom d task source fromBuild warnings loaded).entries,
      IsMerged d task (task.usedIndex d) (freshTable d task (task.usedIndex d) fromBuild)
        loaded.1 s := by
  obtain ⟨es, hes, hentries⟩ := entries_eq_appendFresh source fromBuild warnings loaded
  rw [hentries]
  apply isMerged_appendFresh isKeyed_freshTable _ hes
  have hn : (((freshTable d task (task.usedIndex d) fromBuild).map Prod.snd).map Entry.key).Nodup :=
    nodup_freshTable
  rwa [List.map_map] at hn

lemma mem_resultFrom {k : Text × Text} {f : Entry}
    (hf : Table.find? k (freshTable d task (task.usedIndex d) fromBuild) = some f) :
    f ∈ (resultFrom d task source fromBuild warnings loaded).entries := by
  obtain ⟨es, hes, hentries⟩ := entries_eq_appendFresh source fromBuild warnings loaded
  rw [hentries]
  exact mem_appendFresh isKeyed_freshTable hes hf

end Result

end SketchBuild.Database
