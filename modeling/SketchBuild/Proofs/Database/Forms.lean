import SketchBuild.Database.Merge
import SketchBuild.Proofs.Path.Resolve
import SketchBuild.Proofs.Table

namespace SketchBuild.Database

open SketchBuild.Path (storageKey IsAnchored)

def IsAnchoredIndex (index : ProjectIndex) : Prop := ∀ row ∈ index, IsAnchored row.2

lemma anchored_of_lookup? {index : ProjectIndex} (hi : IsAnchoredIndex index) {name path : Text}
    (h : index.lookup? name = some path) : IsAnchored path := by
  induction index with
  | nil => simp [ProjectIndex.lookup?, Table.find?] at h
  | cons row index ih =>
    obtain ⟨a, p⟩ := row
    rw [ProjectIndex.lookup?, Table.find?] at h
    split at h
    · obtain rfl := Option.some.inj h
      exact hi (a, p) (by simp)
    · exact ih (fun r hr => hi r (by simp [hr])) h

lemma anchored_of_origin? {index : ProjectIndex} (hi : IsAnchoredIndex index)
    {buildDir path found : Text} (h : index.origin? buildDir path = some found) :
    IsAnchored found := by
  rw [ProjectIndex.origin?] at h
  split at h
  · simp at h
  · obtain ⟨name, _, hname⟩ := List.exists_of_findSome?_eq_some h
    exact anchored_of_lookup? hi (Option.eq_some_of_filter_eq_some hname)

lemma value_retarget (index : ProjectIndex) (buildDir path : Text) :
    (index.retarget buildDir path).value = (index.origin? buildDir path).getD path := by
  rw [ProjectIndex.retarget]
  cases index.origin? buildDir path <;> rfl

section Forms

variable (d : Disk) (task : MergeTask) (index : ProjectIndex)

/-- Whether a file belongs to the project and not to its build. -/
def IsAccepted (target : Text) : Prop :=
  (task.buildDir = [] ∨ Path.isUnder target task.buildDir = false) ∧
    task.boundary.contains target = true

instance (target : Text) : Decidable (IsAccepted task target) := by
  unfold IsAccepted
  infer_instance

def target? (e : Entry) : Option Text :=
  let target := (index.retarget task.buildDir (e.path d.cwd)).value
  if IsAccepted task target then some target else none

def freshForm (e : Entry) (target : Text) : Entry :=
  stored d.cwd e (Flags.normalizeEntry d task.header e).value.arguments (e.path d.cwd) target

def oldForm (e : Entry) (target : Text) : Entry :=
  stored d.cwd e e.arguments (e.path d.cwd) target

def freshForms (es : List Entry) : List Entry :=
  es.filterMap fun e => (target? d task index e).map (freshForm d task e)

def targets (es : List Entry) : List Text := es.filterMap (target? d task index)

variable {d task index}

lemma target?_eq_some {e : Entry} {target : Text} :
    target? d task index e = some target ↔
      (index.retarget task.buildDir (e.path d.cwd)).value = target ∧ IsAccepted task target := by
  rw [target?]
  constructor
  · intro h
    split at h
    · rename_i ha
      obtain rfl := Option.some.inj h
      exact ⟨rfl, ha⟩
    · simp at h
  · rintro ⟨rfl, ha⟩
    exact if_pos ha

lemma value_projectFile? (e : Entry) :
    (projectFile? d.cwd task.buildDir task.boundary index e).value =
      (target? d task index e).map fun target => (e.path d.cwd, target) := by
  have hout : ∀ target : Text, ((task.buildDir ≠ [] && Path.isUnder target task.buildDir) ||
      !task.boundary.contains target) = true ↔ ¬IsAccepted task target := by
    intro target
    rw [IsAccepted]
    cases Path.isUnder target task.buildDir <;> cases task.boundary.contains target <;> simp
  simp only [projectFile?, Noted.value_bind, target?]
  by_cases ha : IsAccepted task (index.retarget task.buildDir (e.path d.cwd)).value
  · rw [if_neg ((hout _).not.mpr (not_not.mpr ha)), if_pos ha]
    rfl
  · rw [if_pos ((hout _).mpr ha), if_neg ha]
    rfl

lemma anchored_of_target? (hb : task.boundary.IsRooted) (hi : IsAnchoredIndex index) {e : Entry}
    {target : Text} (h : target? d task index e = some target) : IsAnchored target := by
  obtain ⟨htarget, ha⟩ := target?_eq_some.mp h
  rw [value_retarget] at htarget
  cases ho : index.origin? task.buildDir (e.path d.cwd) with
  | some found =>
    rw [ho, Option.getD_some] at htarget
    exact htarget ▸ anchored_of_origin? hi ho
  | none =>
    rw [ho, Option.getD_none] at htarget
    have hrooted := Path.rooted_of_contains hb ha.2
    rw [← htarget] at hrooted ⊢
    exact Path.isAnchored_of_rooted_resolve hrooted

lemma target_eq_of_storageKey (hb : task.boundary.IsRooted) (hi : IsAnchoredIndex index)
    {e e' : Entry} {target target' : Text} (ht : target? d task index e = some target)
    (ht' : target? d task index e' = some target') (h : storageKey target = storageKey target') :
    target = target' :=
  Path.storageKey_injective (anchored_of_target? hb hi ht) (anchored_of_target? hb hi ht') h

lemma key_freshForm (e : Entry) (target : Text) :
    (freshForm d task e target).key = storageKey target := rfl

lemma key_oldForm (e : Entry) (target : Text) : (oldForm d e target).key = storageKey target := rfl

lemma map_key_freshForms (es : List Entry) :
    (freshForms d task index es).map Entry.key = (targets d task index es).map storageKey := by
  rw [freshForms, targets, List.map_filterMap, List.map_filterMap]
  apply List.filterMap_congr
  intro e _
  rw [Option.map_map]
  rfl

lemma value_collectFresh (es : List Entry) (fresh : Table (Text × Text) Entry) (n : Nat) :
    (collectFresh d task index fresh n es).value =
      (Table.putAll Entry.key (freshForms d task index es) fresh,
        n + es.countP fun e => (target? d task index e).isNone) := by
  induction es generalizing fresh n with
  | nil => rfl
  | cons e es ih =>
    rw [collectFresh, Noted.value_bind, value_projectFile?]
    cases ht : target? d task index e with
    | none =>
      have hforms : freshForms d task index (e :: es) = freshForms d task index es := by
        simp [freshForms, ht]
      rw [hforms, List.countP_cons_of_pos (by simp [ht])]
      simp only [Option.map_none, Noted.value_bind, ih, Prod.mk.injEq, true_and]
      omega
    | some target =>
      have hforms : freshForms d task index (e :: es) =
          freshForm d task e target :: freshForms d task index es := by
        simp [freshForms, ht]
      rw [hforms, List.countP_cons_of_neg (by simp [ht])]
      simp only [Option.map_some, Noted.value_bind, ih]
      rfl

end Forms

end SketchBuild.Database
