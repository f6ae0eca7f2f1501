import SketchBuild.Proofs.Database.Restore
import SketchBuild.Proofs.Database.Upsert

namespace SketchBuild.Database

open SketchBuild.Path (storageKey IsAnchored)

section Files

variable (d : Disk) (task : MergeTask) (index : ProjectIndex) (fromBuild old : List Entry)

def oldForms (es : List Entry) : List Entry :=
  es.filterMap fun e => (target? d task index e).map (oldForm d e)

def HasFiles (es : List Entry) : Prop :=
  ∀ e ∈ es, ∀ target, target? d task index e = some target → d.isFile target = true

variable {d task index fromBuild old}

lemma map_key_upsert_of_hasFiles (h : HasFiles d task index old) :
    (upsert d task index fromBuild old).map Entry.key =
      (targetKeys d task index old ++ targetKeys d task index fromBuild).eraseDups := by
  have hcarried : (old.filterMap (carried? d task index
      (freshTable d task index fromBuild))).map Entry.key = targetKeys d task index old := by
    rw [List.map_filterMap, targetKeys, targets, List.map_filterMap]
    apply List.filterMap_congr
    intro e he
    cases ht : target? d task index e with
    | none => simp [carried?, ht]
    | some target =>
      have hsome : (carried? d task index (freshTable d task index fromBuild) e).isSome = true :=
        (isSome_carried? ht).mpr (Or.inr (h e he target ht))
      obtain ⟨s, hs⟩ := Option.isSome_iff_exists.mp hsome
      rw [hs, Option.map_some, Option.map_some, key_of_carried? isKeyed_freshTable ht hs]
  rw [upsert, Table.map_firsts, List.map_append, hcarried, map_key_freshTable,
    Table.eraseDups_append_eraseDups, ← targetKeys]

lemma find?_carried {k : Text × Text} (h : HasFiles d task index old)
    (hk : Table.find? k (freshTable d task index fromBuild) = none) :
    (old.filterMap (carried? d task index (freshTable d task index fromBuild))).find?
        (fun s => s.key = k) = (oldForms d task index old).find? fun s => s.key = k := by
  induction old with
  | nil => rfl
  | cons e old ih =>
    have hold : HasFiles d task index old := fun x hx => h x (by simp [hx])
    cases ht : target? d task index e with
    | none =>
      have hcarried : carried? d task index (freshTable d task index fromBuild) e = none := by
        simp [carried?, ht]
      have hforms : oldForms d task index (e :: old) = oldForms d task index old := by
        simp [oldForms, ht]
      rw [hforms, List.filterMap_cons_none hcarried, ih hold]
    | some target =>
      have hfile := h e (by simp) target ht
      have hforms : oldForms d task index (e :: old) =
          oldForm d e target :: oldForms d task index old := by
        simp [oldForms, ht]
      have hsome : (carried? d task index (freshTable d task index fromBuild) e).isSome = true :=
        (isSome_carried? ht).mpr (Or.inr hfile)
      obtain ⟨s, hs⟩ := Option.isSome_iff_exists.mp hsome
      have hkey := key_of_carried? isKeyed_freshTable ht hs
      rw [hforms, List.filterMap_cons_some hs, List.find?_cons, List.find?_cons, key_oldForm, hkey,
        ih hold]
      by_cases htarget : storageKey target = k
      · have hself : s = oldForm d e target := by
          rw [carried?, ht, Option.bind_some, htarget, hk, Option.none_or, if_pos hfile] at hs
          exact (Option.some.inj hs).symm
        rw [hself]
      · simp only [htarget, decide_false]

lemma find?_upsert (h : HasFiles d task index old) (k : Text × Text) :
    (upsert d task index fromBuild old).find? (fun s => s.key = k) =
      (Table.find? k (freshTable d task index fromBuild)).or
        ((oldForms d task index old).find? fun s => s.key = k) := by
  cases hk : Table.find? k (freshTable d task index fromBuild) with
  | some f =>
    have hmem : f ∈ upsert d task index fromBuild old := mem_upsert_of_find? hk
    have hfind := Table.find?_of_mem Entry.key (Table.nodup_map_firsts Entry.key _) hmem
    rw [key_of_find? isKeyed_freshTable hk] at hfind
    rw [Option.some_or]
    exact hfind
  | none =>
    rw [Option.none_or, upsert, Table.find?_firsts, List.find?_append, find?_carried h hk,
      ← Table.find?_of_isKeyed Entry.key isKeyed_freshTable, hk, Option.or_none]

lemma find?_freshTable_append (es es' : List Entry) (k : Text × Text) :
    Table.find? k (freshTable d task index (es ++ es')) =
      (Table.find? k (freshTable d task index es')).or
        (Table.find? k (freshTable d task index es)) := by
  rw [freshTable, freshTable, freshTable, Table.find?_putAll, Table.find?_putAll,
    Table.find?_putAll, freshForms_append, List.reverse_append, List.find?_append]

lemma targetKeys_append (es es' : List Entry) :
    targetKeys d task index (es ++ es') =
      targetKeys d task index es ++ targetKeys d task index es' := by
  rw [targetKeys, targets, List.filterMap_append, List.map_append, ← targets, ← targets,
    ← targetKeys, ← targetKeys]

end Files

section Disks

variable {d d' : Disk} {task : MergeTask} {index : ProjectIndex}

lemma target?_congr (h : d'.cwd = d.cwd) (e : Entry) :
    target? d' task index e = target? d task index e := by
  rw [target?, target?, h]

lemma targetKeys_congr (h : d'.cwd = d.cwd) (es : List Entry) :
    targetKeys d' task index es = targetKeys d task index es := by
  rw [targetKeys, targetKeys, targets, targets]
  congr 1
  apply List.filterMap_congr
  intro e _
  exact target?_congr h e

lemma oldForms_congr (h : d'.cwd = d.cwd) (es : List Entry) :
    oldForms d' task index es = oldForms d task index es := by
  have hform : ∀ e target, oldForm d' e target = oldForm d e target := by
    intro e target
    rw [oldForm, oldForm, h]
  rw [oldForms, oldForms]
  apply List.filterMap_congr
  intro e _
  rw [target?_congr h]
  exact Option.map_congr fun target _ => hform e target

lemma freshForms_congr (h : d'.cwd = d.cwd) {es : List Entry}
    (hn : ∀ e ∈ es, ∀ target, target? d task index e = some target →
      (Flags.normalizeEntry d' task.header e).value.arguments =
        (Flags.normalizeEntry d task.header e).value.arguments) :
    freshForms d' task index es = freshForms d task index es := by
  rw [freshForms, freshForms]
  apply List.filterMap_congr
  intro e he
  rw [target?_congr h]
  cases ht : target? d task index e with
  | none => rw [Option.map_none, Option.map_none]
  | some target => rw [Option.map_some, Option.map_some, freshForm, freshForm, hn e he target ht, h]

lemma located_congr (h : d'.cwd = d.cwd) (task : MergeTask) : task.located d' = task.located d := by
  rw [MergeTask.located, MergeTask.located, h]

end Disks

section Stored

variable {d : Disk} {task : MergeTask} {index : ProjectIndex} {fromBuild old : List Entry}

lemma mem_upsert_cases {s : Entry} (h : s ∈ upsert d task index fromBuild old) :
    (∃ e ∈ fromBuild, ∃ target, target? d task index e = some target ∧
        s = freshForm d task e target) ∨
      ∃ e ∈ old, ∃ target, target? d task index e = some target ∧ s = oldForm d e target := by
  have hfresh : ∀ k, Table.find? k (freshTable d task index fromBuild) = some s →
      ∃ e ∈ fromBuild, ∃ target, target? d task index e = some target ∧
        s = freshForm d task e target := by
    intro k hk
    rw [freshTable, Table.find?_putAll] at hk
    have hmem := List.mem_reverse.mp (List.mem_of_find?_eq_some hk)
    obtain ⟨e, he, hform⟩ := List.mem_filterMap.mp hmem
    obtain ⟨target, ht, rfl⟩ := Option.map_eq_some_iff.mp hform
    exact ⟨e, he, target, ht, rfl⟩
  rcases List.mem_append.mp (Table.mem_of_mem_firsts Entry.key h) with hs | hs
  · obtain ⟨e, he, hcarried⟩ := List.mem_filterMap.mp hs
    obtain ⟨target, ht⟩ := exists_target_of_carried? hcarried
    rw [carried?, ht, Option.bind_some] at hcarried
    cases hfind : Table.find? (storageKey target) (freshTable d task index fromBuild) with
    | some f =>
      rw [hfind, Option.some_or] at hcarried
      obtain rfl := Option.some.inj hcarried
      exact Or.inl (hfresh _ hfind)
    | none =>
      rw [hfind, Option.none_or] at hcarried
      split at hcarried
      · obtain rfl := Option.some.inj hcarried
        exact Or.inr ⟨e, he, target, ht, rfl⟩
      · simp at hcarried
  · have hfind := Table.find?_of_mem Entry.key nodup_freshTable hs
    rw [← Table.find?_of_isKeyed Entry.key isKeyed_freshTable] at hfind
    exact Or.inl (hfresh _ hfind)

lemma oldForms_self {es : List Entry} (h : ∀ s ∈ es, ∃ target, IsStored d task index s target) :
    oldForms d task index es = es ∧ targetKeys d task index es = es.map Entry.key := by
  induction es with
  | nil => exact ⟨rfl, rfl⟩
  | cons s es ih =>
    obtain ⟨target, hs⟩ := h s (by simp)
    obtain ⟨hforms, hkeys⟩ := ih fun x hx => h x (by simp [hx])
    have hkey : s.key = storageKey target := by rw [← hs.form, key_oldForm]
    constructor
    · rw [oldForms, List.filterMap_cons_some (by rw [hs.leads, Option.map_some, hs.form]), ← oldForms,
        hforms]
    · rw [targetKeys, targets, List.filterMap_cons_some hs.leads, List.map_cons, ← targets,
        ← targetKeys, hkeys, List.map_cons, hkey]

end Stored

end SketchBuild.Database
