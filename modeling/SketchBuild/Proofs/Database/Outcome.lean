import SketchBuild.Proofs.Database.Carry
import SketchBuild.Proofs.Storage.Reading

namespace SketchBuild.Database

open SketchBuild.Path (storageKey)

section Merge

variable (d : Disk) (task : MergeTask)

def MergeTask.located : MergeTask := { task with buildDir := Path.absolute d.cwd task.buildDir }

def MergeTask.base : Text :=
  if task.sketchDir = [] then task.boundary.roots.head?.getD task.buildDir else task.sketchDir

def MergeTask.usedIndex : ProjectIndex :=
  match task.index with
  | some index => index
  | none => (ProjectIndex.build d task.boundary [task.buildDir]).value

def buildEntries? : Option (List Entry) :=
  match (readArtifact d task.buildDir task.base).run.value with
  | .ok (.primary _ entries _) => some entries
  | .ok (.cache _ entries _) => some entries
  | _ => none

def oldEntries (path : Text) : List Entry :=
  match (load d path).run.value with
  | .ok (entries, _) => entries
  | .error _ => []

variable (index : ProjectIndex) (fromBuild old : List Entry)

def freshTable : Table (Text × Text) Entry :=
  Table.putAll Entry.key (freshForms d task index fromBuild) []

def upsert : List Entry :=
  Table.firsts Entry.key
    (old.filterMap (carried? d task index (freshTable d task index fromBuild)) ++
      (freshTable d task index fromBuild).map Prod.snd)

variable {d task index fromBuild old}

lemma isKeyed_freshTable : Table.IsKeyed Entry.key (freshTable d task index fromBuild) :=
  Table.isKeyed_putAll Entry.key _ (Table.isKeyed_nil Entry.key)

lemma map_key_freshTable :
    ((freshTable d task index fromBuild).map Prod.snd).map Entry.key =
      ((targets d task index fromBuild).map storageKey).eraseDups := by
  rw [← Table.keys_of_isKeyed Entry.key isKeyed_freshTable, freshTable, Table.keys_putAll,
    map_key_freshForms]

lemma nodup_freshTable :
    (((freshTable d task index fromBuild).map Prod.snd).map Entry.key).Nodup := by
  rw [map_key_freshTable]
  exact Table.nodup_eraseDups _

lemma appendFresh_firsts (vs : List Entry) :
    appendFresh (freshTable d task index fromBuild) (Table.firsts Entry.key vs) =
      Table.firsts Entry.key (vs ++ (freshTable d task index fromBuild).map Prod.snd) := by
  rw [Table.firsts_append_of_nodup Entry.key nodup_freshTable, appendFresh, List.filter_map]
  congr 2
  apply List.filter_congr
  intro row hrow
  rw [Function.comp_apply, isKeyed_freshTable row hrow]
  exact decide_eq_decide.mpr Iff.rfl

def loadWarnings (d : Disk) (path : Text) (failure : Option Text) : List Text :=
  if d.exists? path then failure.toList else []

def resultFrom (d : Disk) (task : MergeTask) (source : Source) (fromBuild : List Entry)
    (warnings : List Text) (loaded : List Entry × Option Text) : MergeResult :=
  let index := task.usedIndex d
  let fresh := collectFresh d task index [] 0 fromBuild
  let c := carryAll d task index fresh.value.1 {} loaded.1
  { count := fresh.value.1.length
    source
    databasePath := task.databasePath
    entries := appendFresh fresh.value.1 c.value.entries
    warnings := warnings ++ loadWarnings d task.databasePath loaded.2
    discarded := fresh.value.2
    keptExisting := c.value.kept
    droppedExisting := c.value.dropped }

lemma value_mergeArtifact (source : Source) (warnings : List Text) :
    (mergeArtifact d task source fromBuild warnings).run.value =
      match (load d task.databasePath).run.value with
      | .ok loaded => .ok (resultFrom d task source fromBuild warnings loaded)
      | .error e => .error e := by
  have hexists : ∀ path : Text, (Storage.exists? d path).value = d.exists? path := fun _ => rfl
  rw [mergeArtifact]
  cases hindex : task.index
  all_goals
    simp only [Storage.value_run_bind, Storage.value_run_lift, Storage.value_run_pure]
    cases (load d task.databasePath).run.value with
    | error e => rfl
    | ok loaded =>
      obtain ⟨old, failure⟩ := loaded
      cases failure with
      | none =>
        simp only [Storage.value_run_bind, Storage.value_run_lift, Storage.value_run_pure,
          resultFrom, MergeTask.usedIndex, hindex, loadWarnings, Option.toList_none, ite_self]
      | some reason =>
        cases hx : d.exists? task.databasePath
        all_goals
          simp only [Storage.value_run_bind, Storage.value_run_lift, Storage.value_run_pure,
            resultFrom, MergeTask.usedIndex, hindex, loadWarnings, Option.toList_some, hexists, hx,
            if_true, Bool.false_eq_true, if_false]

variable (d task index fromBuild old) in
structure IsOutcome (r : MergeResult) : Prop where
  entries : r.entries = upsert d task index fromBuild old
  count : r.count = (freshTable d task index fromBuild).length
  discarded : r.discarded = fromBuild.countP fun e => (target? d task index e).isNone
  kept : r.keptExisting = r.entries.countP fun e =>
    (Table.find? e.key (freshTable d task index fromBuild)).isNone
  dropped : r.droppedExisting = old.countP fun e =>
    (carried? d task index (freshTable d task index fromBuild) e).isNone

lemma isSome_find?_of_mem {e : Entry}
    (h : e ∈ (freshTable d task index fromBuild).map Prod.snd) :
    (Table.find? e.key (freshTable d task index fromBuild)).isSome = true := by
  rw [← Table.mem_keys_iff, Table.keys_of_isKeyed Entry.key isKeyed_freshTable]
  exact List.mem_map_of_mem h

lemma countP_upsert :
    (upsert d task index fromBuild old).countP
        (fun e => (Table.find? e.key (freshTable d task index fromBuild)).isNone) =
      (Table.firsts Entry.key
        (old.filterMap (carried? d task index (freshTable d task index fromBuild)))).countP
        fun e => (Table.find? e.key (freshTable d task index fromBuild)).isNone := by
  rw [upsert, Table.firsts_append_of_nodup Entry.key nodup_freshTable, List.countP_append,
    Nat.add_eq_left, List.countP_eq_zero]
  intro e he
  have hsome := isSome_find?_of_mem (List.mem_filter.mp he).1
  rw [Option.isNone_iff_eq_none]
  exact Option.isSome_iff_ne_none.mp hsome

lemma isOutcome_resultFrom (hb : task.boundary.IsRooted)
    (hi : IsAnchoredIndex (task.usedIndex d)) (source : Source) (warnings : List Text)
    (loaded : List Entry × Option Text) :
    IsOutcome d task (task.usedIndex d) fromBuild loaded.1
      (resultFrom d task source fromBuild warnings loaded) := by
  have hfresh : (collectFresh d task (task.usedIndex d) [] 0 fromBuild).value =
      (freshTable d task (task.usedIndex d) fromBuild,
        fromBuild.countP fun e => (target? d task (task.usedIndex d) e).isNone) := by
    rw [value_collectFresh, Nat.zero_add, freshTable]
  have hnil : Carries d task (task.usedIndex d)
      (freshTable d task (task.usedIndex d) fromBuild) [] {} := carries_nil
  have hc := carries_carryAll hnil hb hi isKeyed_freshTable loaded.1
  rw [List.nil_append] at hc
  have hentries : (resultFrom d task source fromBuild warnings loaded).entries =
      upsert d task (task.usedIndex d) fromBuild loaded.1 := by
    simp only [resultFrom, hfresh, hc.entries, appendFresh_firsts, upsert]
  refine ⟨hentries, ?_, ?_, ?_, ?_⟩
  · simp only [resultFrom, hfresh]
  · simp only [resultFrom, hfresh]
  · rw [hentries, countP_upsert, ← hc.entries]
    simp only [resultFrom, hfresh, hc.kept]
  · simp only [resultFrom, hfresh, hc.dropped]

lemma value_planMerge :
    (planMerge d task).run.value =
      match (readArtifact d task.buildDir task.base).run.value with
      | .ok (.absent reason) =>
        .ok { count := noArtifact, source := .absent, databasePath := task.databasePath,
              warnings := [reason] }
      | .ok (.primary path entries skipped) =>
        let warning : Text := path ++ ": skipped " ++ Text.ofNat skipped ++ " malformed entries"
        (mergeArtifact d task .primary entries (if skipped = 0 then [] else [warning])).run.value
      | .ok (.cache _ entries primaryError) =>
        (mergeArtifact d task .cache entries [primaryError]).run.value
      | .error e => .error e := by
  rw [planMerge]
  dsimp only
  rw [← MergeTask.base, Storage.value_run_bind]
  cases (readArtifact d task.buildDir task.base).run.value with
  | error e => rfl
  | ok artifact => cases artifact <;> rfl

lemma exists_of_planMerge {r : MergeResult} (h : (planMerge d task).run.value = .ok r)
    (ha : r.hasArtifact = true) :
    ∃ fromBuild loaded source warnings, buildEntries? d task = some fromBuild ∧
      (load d task.databasePath).run.value = .ok loaded ∧
      r = resultFrom d task source fromBuild warnings loaded := by
  have hmerged : ∀ source fromBuild warnings,
      (mergeArtifact d task source fromBuild warnings).run.value = .ok r →
        ∃ loaded, (load d task.databasePath).run.value = .ok loaded ∧
          r = resultFrom d task source fromBuild warnings loaded := by
    intro source fromBuild warnings hr
    rw [value_mergeArtifact] at hr
    cases hload : (load d task.databasePath).run.value with
    | error e => simp [hload] at hr
    | ok loaded =>
      rw [hload] at hr
      exact ⟨loaded, rfl, (Except.ok.inj hr).symm⟩
  rw [value_planMerge] at h
  cases hread : (readArtifact d task.buildDir task.base).run.value with
  | error e => simp [hread] at h
  | ok artifact =>
    rw [hread] at h
    cases artifact with
    | absent reason =>
      obtain rfl := Except.ok.inj h
      exact absurd ha (by simp [MergeResult.hasArtifact])
    | primary path entries skipped =>
      obtain ⟨loaded, hload, hr⟩ := hmerged _ _ _ h
      exact ⟨entries, loaded, _, _, by rw [buildEntries?, hread], hload, hr⟩
    | cache path entries primaryError =>
      obtain ⟨loaded, hload, hr⟩ := hmerged _ _ _ h
      exact ⟨entries, loaded, _, _, by rw [buildEntries?, hread], hload, hr⟩

/-- Merging with another way to write a document. -/
def mergeBy (write : Disk → Text → Json → Noted (Disk × Except Disk.Error Unit)) (d : Disk)
    (task : MergeTask) : Noted (Disk × Except MergeError MergeResult) := do
  let task := { task with buildDir := Path.absolute d.cwd task.buildDir }
  match ← (planMerge d task).run with
  | .error e => return (d, .error (.oversized e.digits))
  | .ok result =>
    if result.hasArtifact then
      match ← write d task.databasePath (toJson result.entries) with
      | (d, .ok ()) => return (d, .ok { result with written := true })
      | (d, .error reason) => return (d, .error (.unwritable reason result))
    else return (d, .ok result)

lemma mergeBy_writeJson : mergeBy Storage.writeJson d task = merge d task := by
  unfold mergeBy merge
  rfl

lemma value_mergeBy (write : Disk → Text → Json → Noted (Disk × Except Disk.Error Unit)) :
    (mergeBy write d task).value =
      match (planMerge d (task.located d)).run.value with
      | .error e => (d, .error (.oversized e.digits))
      | .ok plan =>
        if plan.hasArtifact then
          match (write d task.databasePath (toJson plan.entries)).value with
          | (d', .ok ()) => (d', .ok { plan with written := true })
          | (d', .error reason) => (d', .error (.unwritable reason plan))
        else (d, .ok plan) := by
  rw [mergeBy]
  dsimp only
  rw [← MergeTask.located, Noted.value_bind]
  cases (planMerge d (task.located d)).run.value with
  | error e => rfl
  | ok plan =>
    dsimp only
    cases plan.hasArtifact with
    | false => rfl
    | true =>
      simp only [if_true, Noted.value_bind]
      cases (write d task.databasePath (toJson plan.entries)).value with
      | mk d' written => cases written <;> rfl

lemma value_merge :
    (merge d task).value =
      match (planMerge d (task.located d)).run.value with
      | .error e => (d, .error (.oversized e.digits))
      | .ok plan =>
        if plan.hasArtifact then
          match (Storage.writeJson d task.databasePath (toJson plan.entries)).value with
          | (d', .ok ()) => (d', .ok { plan with written := true })
          | (d', .error reason) => (d', .error (.unwritable reason plan))
        else (d, .ok plan) := by
  rw [← mergeBy_writeJson, value_mergeBy]

def IsPrimary (d : Disk) (task : MergeTask) (entries : List Entry) : Prop :=
  ∃ path skipped, (readArtifact d (task.located d).buildDir (task.located d).base).run.value =
    .ok (.primary path entries skipped)

lemma hasArtifact_resultFrom (source : Source) (fromBuild : List Entry) (warnings : List Text)
    (loaded : List Entry × Option Text) :
    (resultFrom d task source fromBuild warnings loaded).hasArtifact = true := by
  have hne : ((collectFresh d task (task.usedIndex d) [] 0 fromBuild).value.1.length : Int) ≠
      noArtifact := by
    rw [noArtifact]
    omega
  exact decide_eq_true hne

lemma exists_of_isPrimary {es : List Entry} (h : IsPrimary d task es) :
    ∃ warnings, (planMerge d (task.located d)).run.value =
      match (load d task.databasePath).run.value with
      | .ok loaded => .ok (resultFrom d (task.located d) .primary es warnings loaded)
      | .error e => .error e := by
  obtain ⟨path, skipped, hread⟩ := h
  rw [value_planMerge, hread]
  exact ⟨_, value_mergeArtifact _ _⟩

lemma exists_merge_of_writeJson {d' : Disk} {plan : MergeResult}
    (h : (planMerge d (task.located d)).run.value = .ok plan) (ha : plan.hasArtifact = true)
    (hw : (Storage.writeJson d task.databasePath (toJson plan.entries)).value = (d', .ok ())) :
    ∃ r, (merge d task).value = (d', .ok r) ∧ r.hasArtifact = true := by
  rw [value_merge, h]
  dsimp only
  rw [if_pos ha, hw]
  exact ⟨_, rfl, ha⟩

lemma exists_merge_of_toOption {r : MergeResult} (h : (merge d task).value.2.toOption = some r) :
    ∃ d', (merge d task).value = (d', .ok r) := by
  cases hm : (merge d task).value with
  | mk d' result =>
    rw [hm] at h
    cases result with
    | error e => simp [Except.toOption] at h
    | ok r' =>
      obtain rfl := Option.some.inj h
      exact ⟨d', rfl⟩

lemma ok_of_merge {d' : Disk} {r : MergeResult} (h : (merge d task).value = (d', .ok r))
    (ha : r.hasArtifact = true) :
    ∃ plan, (planMerge d (task.located d)).run.value = .ok plan ∧ plan.hasArtifact = true ∧
      (Storage.writeJson d task.databasePath (toJson plan.entries)).value = (d', .ok ()) ∧
      r = { plan with written := true } := by
  rw [value_merge] at h
  cases hplan : (planMerge d (task.located d)).run.value with
  | error e => simp [hplan] at h
  | ok plan =>
    rw [hplan] at h
    dsimp only at h
    split at h
    · rename_i hartifact
      split at h
      · rename_i d'' hwrite
        obtain ⟨rfl, hr⟩ := Prod.mk.inj h
        exact ⟨plan, rfl, hartifact, hwrite, (Except.ok.inj hr).symm⟩
      · simp at h
    · rename_i hartifact
      obtain ⟨rfl, hr⟩ := Prod.mk.inj h
      obtain rfl := Except.ok.inj hr
      exact absurd ha hartifact

end Merge

end SketchBuild.Database
