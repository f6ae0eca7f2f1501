import Mathlib.Data.List.Nodup
import SketchBuild.Proofs.Database.Outcome
import SketchBuild.Proofs.Database.Stored

namespace SketchBuild.Database

open SketchBuild.Path (storageKey)

section Upsert

variable (d : Disk) (task : MergeTask) (index : ProjectIndex) (fromBuild old : List Entry)

def targetKeys (es : List Entry) : List (Text × Text) := (targets d task index es).map storageKey

structure IsUpsert (r : MergeResult) : Prop where
  distinct : (r.entries.map Entry.key).Nodup
  keys : ∀ k, k ∈ r.entries.map Entry.key ↔
    (∃ e ∈ fromBuild, ∃ target, target? d task index e = some target ∧ storageKey target = k) ∨
      ∃ e ∈ old, ∃ target, target? d task index e = some target ∧ d.isFile target = true ∧
        storageKey target = k
  fresh : ∀ front e back target, fromBuild = front ++ e :: back →
    target? d task index e = some target → storageKey target ∉ targetKeys d task index back →
    freshForm d task e target ∈ r.entries
  kept : ∀ front e back target, old = front ++ e :: back →
    target? d task index e = some target → d.isFile target = true →
    storageKey target ∉ targetKeys d task index fromBuild →
    storageKey target ∉ targetKeys d task index front → oldForm d e target ∈ r.entries
  order : r.entries.map Entry.key =
    (targetKeys d task index old).eraseDups.filter (· ∈ r.entries.map Entry.key) ++
      (targetKeys d task index fromBuild).eraseDups.filter (· ∉ targetKeys d task index old)
  count : r.count = (targetKeys d task index fromBuild).eraseDups.length
  discarded : r.discarded = fromBuild.countP fun e => target? d task index e = none
  keptExisting : r.keptExisting =
    (r.entries.map Entry.key).countP (· ∉ targetKeys d task index fromBuild)
  droppedExisting : r.droppedExisting = old.countP fun e =>
    ∀ target, target? d task index e = some target →
      d.isFile target = false ∧ storageKey target ∉ targetKeys d task index fromBuild

variable {d task index fromBuild old}

lemma mem_targetKeys {es : List Entry} {k : Text × Text} :
    k ∈ targetKeys d task index es ↔
      ∃ e ∈ es, ∃ target, target? d task index e = some target ∧ storageKey target = k := by
  rw [targetKeys, targets, List.map_filterMap, List.mem_filterMap]
  simp only [Option.map_eq_some_iff]

lemma keys_freshTable :
    Table.keys (freshTable d task index fromBuild) =
      (targetKeys d task index fromBuild).eraseDups := by
  rw [Table.keys_of_isKeyed Entry.key isKeyed_freshTable, map_key_freshTable, targetKeys]

lemma isSome_find?_freshTable (k : Text × Text) :
    (Table.find? k (freshTable d task index fromBuild)).isSome = true ↔
      k ∈ targetKeys d task index fromBuild := by
  rw [← Table.mem_keys_iff, keys_freshTable, List.mem_eraseDups]

lemma find?_freshTable_eq_none (k : Text × Text) :
    Table.find? k (freshTable d task index fromBuild) = none ↔
      k ∉ targetKeys d task index fromBuild := by
  rw [← isSome_find?_freshTable, Option.not_isSome_iff_eq_none]

lemma freshForms_append (es es' : List Entry) :
    freshForms d task index (es ++ es') =
      freshForms d task index es ++ freshForms d task index es' :=
  List.filterMap_append

lemma find?_freshTable_last {front back : List Entry} {e : Entry} {target : Text}
    (ht : target? d task index e = some target)
    (hback : storageKey target ∉ targetKeys d task index back) :
    Table.find? (storageKey target) (freshTable d task index (front ++ e :: back)) =
      some (freshForm d task e target) := by
  have hforms : freshForms d task index (e :: back) =
      freshForm d task e target :: freshForms d task index back := by
    simp [freshForms, ht]
  have hnone : (freshForms d task index back).reverse.find?
      (fun f => f.key = storageKey target) = none := by
    rw [List.find?_eq_none]
    intro f hf
    have hkey : f.key ∈ targetKeys d task index back := by
      rw [targetKeys, ← map_key_freshForms]
      exact List.mem_map_of_mem (List.mem_reverse.mp hf)
    simp only [decide_eq_true_eq]
    intro hsame
    exact hback (hsame ▸ hkey)
  rw [freshTable, Table.find?_putAll, freshForms_append, hforms, List.reverse_append,
    List.reverse_cons, List.append_assoc, List.find?_append, hnone, Option.none_or,
    List.singleton_append, List.find?_cons_of_pos (by simp [key_freshForm])]

lemma mem_map_carried? (k : Text × Text) :
    k ∈ (old.filterMap (carried? d task index (freshTable d task index fromBuild))).map Entry.key ↔
      ∃ e ∈ old, ∃ target, target? d task index e = some target ∧ storageKey target = k ∧
        (k ∈ targetKeys d task index fromBuild ∨ d.isFile target = true) := by
  rw [List.map_filterMap, List.mem_filterMap]
  constructor
  · rintro ⟨e, he, hk⟩
    obtain ⟨s, hs, rfl⟩ := Option.map_eq_some_iff.mp hk
    obtain ⟨target, ht⟩ := exists_target_of_carried? hs
    have hkey := key_of_carried? isKeyed_freshTable ht hs
    have hsome := (isSome_carried? ht).mp (Option.isSome_of_eq_some hs)
    rw [isSome_find?_freshTable] at hsome
    exact ⟨e, he, target, ht, hkey.symm, hkey ▸ hsome⟩
  · rintro ⟨e, he, target, ht, rfl, hsome⟩
    rw [← isSome_find?_freshTable] at hsome
    obtain ⟨s, hs⟩ := Option.isSome_iff_exists.mp ((isSome_carried? ht).mpr hsome)
    refine ⟨e, he, ?_⟩
    rw [hs, Option.map_some, key_of_carried? isKeyed_freshTable ht hs]

lemma mem_map_upsert (k : Text × Text) :
    k ∈ (upsert d task index fromBuild old).map Entry.key ↔
      k ∈ targetKeys d task index fromBuild ∨
        ∃ e ∈ old, ∃ target, target? d task index e = some target ∧ d.isFile target = true ∧
          storageKey target = k := by
  rw [upsert, Table.mem_map_firsts, List.map_append, List.mem_append, mem_map_carried?,
    map_key_freshTable, List.mem_eraseDups, ← targetKeys]
  constructor
  · rintro (⟨e, he, target, ht, hk, hfresh | hfile⟩ | hfresh)
    · exact Or.inl hfresh
    · exact Or.inr ⟨e, he, target, ht, hfile, hk⟩
    · exact Or.inl hfresh
  · rintro (hfresh | ⟨e, he, target, ht, hfile, hk⟩)
    · exact Or.inr hfresh
    · exact Or.inl ⟨e, he, target, ht, hk, Or.inr hfile⟩

lemma mem_upsert_of_find? {k : Text × Text} {f : Entry}
    (hf : Table.find? k (freshTable d task index fromBuild) = some f) :
    f ∈ upsert d task index fromBuild old := by
  have hkey : f.key = k := key_of_find? isKeyed_freshTable hf
  have hmem : f ∈ (freshTable d task index fromBuild).map Prod.snd := by
    rw [Table.find?_of_isKeyed Entry.key isKeyed_freshTable] at hf
    exact List.mem_of_find?_eq_some hf
  have hk : k ∈ (upsert d task index fromBuild old).map Entry.key := by
    rw [mem_map_upsert, ← isSome_find?_freshTable, hf]
    exact Or.inl rfl
  obtain ⟨s, hs, hsk⟩ := List.mem_map.mp hk
  have hsame : s = f := by
    rcases List.mem_append.mp (Table.mem_of_mem_firsts Entry.key hs) with hs | hs
    · obtain ⟨e, _, hcarried⟩ := List.mem_filterMap.mp hs
      obtain ⟨target, ht⟩ := exists_target_of_carried? hcarried
      have htarget : storageKey target = k := by
        rw [← key_of_carried? isKeyed_freshTable ht hcarried, hsk]
      rw [carried?, ht, Option.bind_some, htarget, hf, Option.some_or] at hcarried
      exact (Option.some.inj hcarried).symm
    · exact List.inj_on_of_nodup_map nodup_freshTable hs hmem (hsk.trans hkey.symm)
  exact hsame ▸ hs

lemma mem_upsert_of_first {front back : List Entry} {e : Entry} {target : Text}
    (ht : target? d task index e = some target) (hfile : d.isFile target = true)
    (hfresh : storageKey target ∉ targetKeys d task index fromBuild)
    (hfront : storageKey target ∉ targetKeys d task index front) :
    oldForm d e target ∈ upsert d task index fromBuild (front ++ e :: back) := by
  have hcarried : carried? d task index (freshTable d task index fromBuild) e =
      some (oldForm d e target) := by
    rw [carried?, ht, Option.bind_some, (find?_freshTable_eq_none _).mpr hfresh, Option.none_or,
      if_pos hfile]
  have hnone : (front.filterMap (carried? d task index
      (freshTable d task index fromBuild))).find? (fun s => s.key = storageKey target) = none := by
    rw [List.find?_eq_none]
    intro s hs
    simp only [decide_eq_true_eq]
    intro hkey
    have hmem : storageKey target ∈ (front.filterMap (carried? d task index
        (freshTable d task index fromBuild))).map Entry.key := hkey ▸ List.mem_map_of_mem hs
    obtain ⟨e', he', target', ht', hk, _⟩ := (mem_map_carried? _).mp hmem
    exact hfront (mem_targetKeys.mpr ⟨e', he', target', ht', hk⟩)
  have hfind : (upsert d task index fromBuild (front ++ e :: back)).find?
      (fun s => s.key = storageKey target) = some (oldForm d e target) := by
    rw [upsert, Table.find?_firsts, List.filterMap_append, List.filterMap_cons_some hcarried,
      List.append_assoc, List.find?_append, hnone, Option.none_or, List.cons_append,
      List.find?_cons_of_pos (by simp [key_oldForm])]
  exact List.mem_of_find?_eq_some hfind

lemma map_key_carried? (hb : task.boundary.IsRooted) (hi : IsAnchoredIndex index) :
    (old.filterMap (carried? d task index (freshTable d task index fromBuild))).map Entry.key =
      (targetKeys d task index old).filter
        (· ∈ (upsert d task index fromBuild old).map Entry.key) := by
  have hmem : ∀ e ∈ old, ∀ target, target? d task index e = some target →
      ((carried? d task index (freshTable d task index fromBuild) e).isSome = true ↔
        storageKey target ∈ (upsert d task index fromBuild old).map Entry.key) := by
    intro e he target ht
    rw [isSome_carried? ht, isSome_find?_freshTable, mem_map_upsert]
    refine or_congr_right ⟨fun hfile => ⟨e, he, target, ht, hfile, rfl⟩, ?_⟩
    rintro ⟨e', _, target', ht', hfile, hk⟩
    rw [← target_eq_of_storageKey hb hi ht' ht hk]
    exact hfile
  rw [List.map_filterMap, targetKeys, targets, List.map_filterMap, List.filter_filterMap]
  apply List.filterMap_congr
  intro e he
  cases ht : target? d task index e with
  | none => simp [carried?, ht]
  | some target =>
    by_cases hs : (carried? d task index (freshTable d task index fromBuild) e).isSome = true
    · obtain ⟨s, hcarried⟩ := Option.isSome_iff_exists.mp hs
      have hkey := (hmem e he target ht).mp hs
      rw [hcarried, Option.map_some, Option.map_some, Option.filter_some_pos (by simpa using hkey),
        key_of_carried? isKeyed_freshTable ht hcarried]
    · have hkey := (hmem e he target ht).not.mp hs
      rw [Option.not_isSome_iff_eq_none.mp hs, Option.map_none, Option.map_some,
        Option.filter_some_neg (by simpa using hkey)]

lemma map_key_upsert (hb : task.boundary.IsRooted) (hi : IsAnchoredIndex index) :
    (upsert d task index fromBuild old).map Entry.key =
      (targetKeys d task index old).eraseDups.filter
          (· ∈ (upsert d task index fromBuild old).map Entry.key) ++
        (targetKeys d task index fromBuild).eraseDups.filter
          (· ∉ targetKeys d task index old) := by
  have hfresh : ∀ p : Entry → Bool,
      (∀ f, p f = true ↔ f.key ∉ (Table.firsts Entry.key (old.filterMap (carried? d task index
        (freshTable d task index fromBuild)))).map Entry.key) →
      (((freshTable d task index fromBuild).map Prod.snd).filter p).map Entry.key =
        (targetKeys d task index fromBuild).eraseDups.filter
          (· ∉ targetKeys d task index old) := by
    intro p hp
    have hkeys : ((freshTable d task index fromBuild).map Prod.snd).map Entry.key =
        (targetKeys d task index fromBuild).eraseDups := map_key_freshTable
    generalize (freshTable d task index fromBuild).map Prod.snd = fs at hkeys ⊢
    rw [← hkeys, List.filter_map]
    congr 1
    apply List.filter_congr
    intro f hf
    have hmem : f.key ∈ targetKeys d task index fromBuild := by
      rw [← List.mem_eraseDups, ← hkeys]
      exact List.mem_map_of_mem hf
    rw [Bool.eq_iff_iff, hp, Table.mem_map_firsts, mem_map_carried?, Function.comp_apply,
      decide_eq_true_eq, not_iff_not]
    constructor
    · rintro ⟨e, he, target, ht, hk, _⟩
      exact mem_targetKeys.mpr ⟨e, he, target, ht, hk⟩
    · intro hold
      obtain ⟨e, he, target, ht, hk⟩ := mem_targetKeys.mp hold
      exact ⟨e, he, target, ht, hk, Or.inl hmem⟩
  conv_lhs => rw [upsert, Table.firsts_append_of_nodup Entry.key nodup_freshTable,
    List.map_append, hfresh _ (by simp), Table.map_firsts, map_key_carried? hb hi,
    Table.eraseDups_filter]

lemma IsOutcome.isUpsert (hb : task.boundary.IsRooted) (hi : IsAnchoredIndex index)
    {r : MergeResult} (h : IsOutcome d task index fromBuild old r) :
    IsUpsert d task index fromBuild old r := by
  have hentries := h.entries
  refine ⟨?_, ?_, ?_, ?_, ?_, ?_, ?_, ?_, ?_⟩
  · rw [hentries]
    exact Table.nodup_map_firsts Entry.key _
  · intro k
    rw [hentries, mem_map_upsert, mem_targetKeys]
  · rintro front e back target rfl ht hback
    rw [hentries]
    exact mem_upsert_of_find? (find?_freshTable_last ht hback)
  · rintro front e back target rfl ht hfile hfresh hfront
    rw [hentries]
    exact mem_upsert_of_first ht hfile hfresh hfront
  · rw [hentries]
    exact map_key_upsert hb hi
  · rw [h.count, ← keys_freshTable, Table.keys, List.length_map]
  · rw [h.discarded]
    apply List.countP_congr
    intro e _
    simp
  · rw [h.kept, List.countP_map]
    apply List.countP_congr
    intro e _
    rw [Option.isNone_iff_eq_none, find?_freshTable_eq_none]
    simp
  · rw [h.dropped]
    apply List.countP_congr
    intro e _
    rw [decide_eq_true_eq]
    cases ht : target? d task index e with
    | none => simp [carried?, ht]
    | some target =>
      rw [Option.isNone_iff_eq_none, ← Option.not_isSome_iff_eq_none, isSome_carried? ht,
        isSome_find?_freshTable]
      constructor
      · intro hnot target' ht'
        obtain rfl := Option.some.inj ht'
        exact ⟨by simpa using fun hfile => hnot (Or.inr hfile), fun hk => hnot (Or.inl hk)⟩
      · intro hall hor
        obtain ⟨hfile, hk⟩ := hall target rfl
        rcases hor with hor | hor
        · exact hk hor
        · simp [hfile] at hor

end Upsert

section Sample

def sampleDisk (fromBuild old : List Entry) : Disk :=
  { root := .dir [
      ("b", .dir [(databaseFile, .file (Storage.documentBytes (toJson fromBuild)))]),
      ("p", .dir [("x.c", .file []), ("y.c", .file [])]),
      ("d", .file (Storage.documentBytes (toJson old)))]
    here := [] }

def sampleIndex : ProjectIndex := [("x.c", "/p/x.c"), ("y.c", "/p/y.c")]

def sampleTask : MergeTask :=
  { buildDir := "/b"
    boundary := { roots := ["/p"] }
    databasePath := "/d"
    index := some sampleIndex }

def sampleEntry (name : Text) : Entry :=
  { directory := "/p", file := name, arguments := ["gcc", name] }

lemma isComplete_sampleEntry {name : Text} (h : name ≠ []) :
    (sampleEntry name).IsComplete ∧ (sampleEntry name).canonical = sampleEntry name :=
  ⟨⟨by simp [sampleEntry], h, by simp [sampleEntry]⟩, rfl⟩

lemma isRooted_sampleTask : sampleTask.boundary.IsRooted := by
  intro r hr
  rw [List.mem_singleton.mp hr]
  rfl

lemma isAnchoredIndex_sample : IsAnchoredIndex sampleIndex := by
  intro row hrow
  rcases List.mem_cons.mp hrow with rfl | hrow
  · exact ⟨rfl, by decide⟩
  · rw [List.mem_singleton.mp hrow]
    exact ⟨rfl, by decide⟩

variable {fromBuild old : List Entry}

lemma read_artifact_sample (fromBuild old : List Entry) :
    (sampleDisk fromBuild old).read (Path.join sampleTask.buildDir databaseFile) =
      .ok (Storage.documentBytes (toJson fromBuild)) := by
  rw [sampleDisk]
  generalize Storage.documentBytes (toJson fromBuild) = bytes
  rfl

lemma isPrimary_sample (h : ∀ e ∈ fromBuild, e.IsComplete ∧ e.canonical = e) (old : List Entry) :
    IsPrimary (sampleDisk fromBuild old) sampleTask fromBuild := by
  have hread := read_artifact_sample fromBuild old
  have hmap : fromBuild.map Entry.canonical = fromBuild := by
    conv_rhs => rw [← List.map_id fromBuild]
    exact List.map_congr_left fun e he => (h e he).2
  have hlocated : sampleTask.located (sampleDisk fromBuild old) = sampleTask := rfl
  rw [IsPrimary, hlocated, value_readArtifact _ hread fun e he => (h e he).1, hmap]
  exact ⟨_, _, rfl⟩

lemma read_sample (fromBuild old : List Entry) :
    (sampleDisk fromBuild old).read sampleTask.databasePath =
      .ok (Storage.documentBytes (toJson old)) := by
  rw [sampleDisk]
  generalize Storage.documentBytes (toJson old) = bytes
  rfl

lemma load_sample (fromBuild : List Entry) (h : ∀ e ∈ old, e.IsComplete ∧ e.canonical = e) :
    (load (sampleDisk fromBuild old) sampleTask.databasePath).run.value = .ok (old, none) := by
  have hmap : old.map Entry.canonical = old := by
    conv_rhs => rw [← List.map_id old]
    exact List.map_congr_left fun e he => (h e he).2
  rw [value_load (read_sample fromBuild old) fun e he => (h e he).1, hmap]

lemma exists_merge_sample (hb : ∀ e ∈ fromBuild, e.IsComplete ∧ e.canonical = e)
    (ho : ∀ e ∈ old, e.IsComplete ∧ e.canonical = e) :
    ∃ d' r, (merge (sampleDisk fromBuild old) sampleTask).value = (d', .ok r) ∧
      r.hasArtifact = true := by
  obtain ⟨warnings, hplan⟩ := exists_of_isPrimary (isPrimary_sample hb old)
  rw [load_sample fromBuild ho] at hplan
  have hwrite : ∀ v, ∃ d', (Storage.writeJson (sampleDisk fromBuild old)
      sampleTask.databasePath v).value = (d', .ok ()) := by
    intro v
    rw [Storage.value_writeJson, sampleDisk]
    generalize Storage.documentBytes v = bytes
    generalize Storage.documentBytes (toJson fromBuild) = built
    generalize Storage.documentBytes (toJson old) = before
    exact ⟨_, rfl⟩
  obtain ⟨d', hw⟩ := hwrite _
  exact ⟨d', exists_merge_of_writeJson hplan (hasArtifact_resultFrom _ _ _ _) hw⟩

end Sample

theorem merge_isUpsert (d d' : Disk) (task : MergeTask) (r : MergeResult)
    (hb : task.boundary.IsRooted) (hi : IsAnchoredIndex ((task.located d).usedIndex d))
    (hm : (merge d task).value = (d', .ok r)) (ha : r.hasArtifact = true) :
    ∃ fromBuild, buildEntries? d (task.located d) = some fromBuild ∧
      IsUpsert d (task.located d) ((task.located d).usedIndex d) fromBuild
        (oldEntries d task.databasePath) r := by
  obtain ⟨plan, hplan, hartifact, _, rfl⟩ := ok_of_merge hm ha
  obtain ⟨fromBuild, loaded, source, warnings, hread, hload, rfl⟩ :=
    exists_of_planMerge hplan hartifact
  have hold : oldEntries d task.databasePath = loaded.1 := by
    rw [oldEntries, show task.databasePath = (task.located d).databasePath from rfl, hload]
  have hb' : (task.located d).boundary.IsRooted := hb
  have hout : IsOutcome d (task.located d) ((task.located d).usedIndex d) fromBuild loaded.1
      (resultFrom d (task.located d) source fromBuild warnings loaded) :=
    isOutcome_resultFrom hb' hi source warnings loaded
  refine ⟨fromBuild, hread, ?_⟩
  rw [hold]
  apply IsOutcome.isUpsert hb' hi
  exact ⟨hout.entries, hout.count, hout.discarded, hout.kept, hout.dropped⟩

/-- A build with two entries for one file and one outside the project meets an entry for the same file between
two for another one, and an entry whose file is gone. -/
theorem merge_isUpsert_sample :
    let outside : Entry := { directory := "/q", file := "v.c", arguments := ["gcc", "v.c"] }
    let last : Entry := { directory := "/p", file := "./x.c", arguments := ["gcc", "-Ii", "x.c"] }
    let again : Entry := { directory := "/p", file := "y.c", arguments := ["gcc", "-DY", "y.c"] }
    let fromBuild := [sampleEntry "x.c", outside, last]
    let old := [sampleEntry "y.c", sampleEntry "x.c", again, sampleEntry "z.c"]
    let d := sampleDisk fromBuild old
    let r : MergeResult := {
      count := 1
      source := .primary
      databasePath := "/d"
      entries := [
        { directory := "/p", file := "y.c", arguments := ["gcc", "/p/y.c"] },
        { directory := "/p"
          file := "x.c"
          arguments := ["gcc", "-include", "Arduino.h", "-I/p/i", "/p/x.c"] }]
      discarded := 1
      keptExisting := 1
      droppedExisting := 1
      written := true }
    sampleTask.boundary.IsRooted ∧ IsAnchoredIndex ((sampleTask.located d).usedIndex d) ∧
      buildEntries? d (sampleTask.located d) = some fromBuild ∧
      oldEntries d sampleTask.databasePath = old ∧ r.hasArtifact = true ∧
      ∃ d', (merge d sampleTask).value = (d', .ok r) ∧
        IsUpsert d (sampleTask.located d) ((sampleTask.located d).usedIndex d) fromBuild old r := by
  intro outside last again fromBuild old d r
  have hi : IsAnchoredIndex ((sampleTask.located d).usedIndex d) := isAnchoredIndex_sample
  have hbuild : buildEntries? d (sampleTask.located d) = some fromBuild := by decide +kernel
  have hold : oldEntries d sampleTask.databasePath = old := by decide +kernel
  obtain ⟨d', hm⟩ := exists_merge_of_toOption
    (show (merge d sampleTask).value.2.toOption = some r by decide +kernel)
  obtain ⟨fromBuild', hbuild', hupsert⟩ :=
    merge_isUpsert d d' sampleTask r isRooted_sampleTask hi hm rfl
  obtain rfl := Option.some.inj (hbuild.symm.trans hbuild')
  rw [hold] at hupsert
  exact ⟨isRooted_sampleTask, hi, hbuild, hold, rfl, d', hm, hupsert⟩

end SketchBuild.Database
