import Mathlib.Data.List.TakeWhile
import SketchBuild.Properties
import SketchBuild.Proofs.Table

namespace SketchBuild.Properties

open Json (Members)

section Paths

lemma addNew_eq (old xs : List Text) :
    addNew old xs = old ++ (xs.filter (· ∉ old)).eraseDups := by
  induction xs generalizing old with
  | nil => simp [addNew]
  | cons x xs ih =>
    by_cases hx : x ∈ old
    · rw [addNew, if_pos hx, ih, List.filter_cons_of_neg (by simpa using hx)]
    · rw [addNew, if_neg hx, ih, List.filter_cons_of_pos (by simpa using hx), List.eraseDups_cons,
        List.filter_filter, List.append_assoc, List.singleton_append]
      congr 3
      apply List.filter_congr
      intro y _
      by_cases hy : y = x <;> simp [hy]

lemma mem_addNew {old xs : List Text} {y : Text} : y ∈ addNew old xs ↔ y ∈ old ∨ y ∈ xs := by
  rw [addNew_eq, List.mem_append, List.mem_eraseDups, List.mem_filter]
  by_cases hy : y ∈ old <;> simp [hy]

lemma addNew_filter (p : Text → Bool) {ps gs : List Text} (h : ∀ g ∈ gs, g ∈ ps) :
    addNew (ps.filter p) gs = ps.filter p ++ (gs.filter (!p ·)).eraseDups := by
  rw [addNew_eq]
  congr 2
  apply List.filter_congr
  intro g hg
  simp [h g hg]

end Paths

section Members

variable (name other : Text) (v : Json) (members : Members)

lemma get?_set : Members.get? other (Members.set name v members) =
    if name = other then some v else Members.get? other members :=
  Table.find?_put name other v members

lemma get?_setNew : Members.get? other (Members.setNew name v members) =
    if name = other then some ((Members.get? name members).getD v)
    else Members.get? other members :=
  Table.find?_alter name other _ members

lemma set_set (w : Json) :
    Members.set name w (Members.set name v members) = Members.set name w members :=
  Table.put_put name v w members

variable {name v members} {w : Json}

lemma set_self (h : Members.get? name members = some v) : Members.set name v members = members :=
  Table.put_self h

lemma setNew_self (h : Members.get? name members = some w) :
    Members.setNew name v members = members :=
  Table.putNew_self h

end Members

def config (v : Json) : Members := (target (shape v).2).2.1

def withConfig (v : Json) (members : Members) : Json :=
  .obj (Members.set "configurations"
    (.arr ((target (shape v).2).1 ++ .obj members :: (target (shape v).2).2.2)) (shape v).1)

lemma updated_eq (d : Disk) (u : Update) (v : Json) :
    updated d u v = withConfig v (updateTarget d u (config v)) := rfl

def IsNamed (members : Members) : Prop :=
  Members.get? "name" members = some (.str configurationName)

/-- A configuration counts as unnamed if nothing stands in place of its name. -/
def IsUnnamed (members : Members) : Prop :=
  ((Members.get? "name" members).getD .null).isTruthy = false

lemma isTarget_obj {members : Members} : isTarget (.obj members) = true ↔ IsNamed members := by
  rw [isTarget, decide_eq_true_eq, Json.textAt?, Json.member?, Option.bind_eq_some_iff, IsNamed]
  constructor
  · rintro ⟨v, hv, htext⟩
    cases v <;> simp [Json.text?] at htext
    rw [hv, htext]
  · intro h
    exact ⟨_, h, rfl⟩

lemma exists_of_isTarget {v : Json} (h : isTarget v = true) : ∃ members, v = .obj members := by
  cases v with
  | obj members => exact ⟨members, rfl⟩
  | _ => simp [isTarget, Json.textAt?, Json.member?] at h

section Target

variable {configurations : List Json}

lemma target_of_dropWhile {members : Members} {rest : List Json}
    (h : configurations.dropWhile (!isTarget ·) = .obj members :: rest) :
    target configurations = (configurations.takeWhile (!isTarget ·), members, rest) := by
  rw [target.eq_def, h]

lemma target_append {before after : List Json} {members : Members}
    (hb : ∀ c ∈ before, isTarget c = false) (hm : IsNamed members) :
    target (before ++ .obj members :: after) = (before, members, after) := by
  have hbefore : ∀ c ∈ before, (!isTarget c) = true := fun c hc => by rw [hb c hc]; rfl
  have hdrop : (before ++ .obj members :: after).dropWhile (!isTarget ·) = .obj members :: after := by
    rw [List.dropWhile_append_of_pos hbefore]
    simp [isTarget_obj.mpr hm]
  rw [target_of_dropWhile hdrop, List.takeWhile_append_of_pos hbefore]
  simp [isTarget_obj.mpr hm]

lemma dropWhile_isTarget (configurations : List Json) :
    (∃ members rest, configurations.dropWhile (!isTarget ·) = .obj members :: rest ∧
        IsNamed members) ∨
      configurations.dropWhile (!isTarget ·) = [] := by
  have hhead := List.head?_dropWhile_not (!isTarget ·) configurations
  cases hdrop : configurations.dropWhile (!isTarget ·) with
  | nil => exact Or.inr rfl
  | cons v rest =>
    have hv : isTarget v = true := by simpa [hdrop] using hhead
    obtain ⟨members, rfl⟩ := exists_of_isTarget hv
    exact Or.inl ⟨members, rest, rfl, isTarget_obj.mp hv⟩

lemma target_of_none (h : configurations.dropWhile (!isTarget ·) = []) :
    (∀ members, configurations = [.obj members] → ¬IsUnnamed members) ∧
        target configurations = (configurations, ([("name", .str configurationName)] : Members), []) ∨
      ∃ members, configurations = [.obj members] ∧ IsUnnamed members ∧
        target configurations = ([], Members.set "name" (.str configurationName) members, []) := by
  rw [target.eq_def, h]
  dsimp only
  split
  · rename_i hcons
    exact (List.cons_ne_nil _ _ hcons.symm).elim
  · rename_i only _
    split
    · rename_i htruthy
      refine Or.inl ⟨?_, rfl⟩
      intro members hmembers hunnamed
      obtain rfl : only = members := by simpa using hmembers
      exact absurd (htruthy.symm.trans hunnamed) (by decide)
    · rename_i hunnamed
      exact Or.inr ⟨_, rfl, Bool.eq_false_iff.mpr hunnamed, rfl⟩
  · rename_i hother _
    exact Or.inl ⟨fun members hmembers => (hother members hmembers).elim, rfl⟩

lemma isTarget_target (configurations : List Json) :
    (∀ c ∈ (target configurations).1, isTarget c = false) ∧
      IsNamed (target configurations).2.1 := by
  rcases dropWhile_isTarget configurations with ⟨members, rest, hdrop, hnamed⟩ | hdrop
  · rw [target_of_dropWhile hdrop]
    refine ⟨?_, hnamed⟩
    intro c hc
    simpa using List.mem_takeWhile_imp hc
  · have hnone : ∀ c ∈ configurations, isTarget c = false := by
      intro c hc
      simpa using List.dropWhile_eq_nil_iff.mp hdrop c hc
    rcases target_of_none hdrop with ⟨_, htarget⟩ | ⟨members, _, _, htarget⟩
    · rw [htarget]
      exact ⟨hnone, rfl⟩
    · rw [htarget]
      exact ⟨by simp, by rw [IsNamed, get?_set, if_pos rfl]⟩

end Target

lemma exists_version (v : Json) : ∃ w, Members.get? "version" (shape v).1 = some w := by
  have hne : ("configurations" : Text) ≠ "version" := by decide
  rw [shape.eq_def]
  dsimp only
  split
  · exact ⟨_, by rw [get?_setNew, if_pos rfl]⟩
  · exact ⟨_, by rw [get?_set, if_neg hne, get?_setNew, if_pos rfl]⟩

lemma shape_obj {members : Members} {w : Json} {items : List Json}
    (hv : Members.get? "version" members = some w)
    (hc : Members.get? "configurations" members = some (.arr items)) :
    shape (.obj members) = (members, items) := by
  rw [shape.eq_def]
  simp only [setNew_self hv, hc]

lemma shape_withConfig (v : Json) (members : Members) :
    shape (withConfig v members) =
      (Members.set "configurations"
        (.arr ((target (shape v).2).1 ++ .obj members :: (target (shape v).2).2.2)) (shape v).1,
        (target (shape v).2).1 ++ .obj members :: (target (shape v).2).2.2) := by
  have hne : ("configurations" : Text) ≠ "version" := by decide
  obtain ⟨w, hw⟩ := exists_version v
  apply shape_obj
  · rw [get?_set, if_neg hne, hw]
  · rw [get?_set, if_pos rfl]

variable {members : Members}

lemma config_withConfig (v : Json) (h : IsNamed members) : config (withConfig v members) = members := by
  rw [config, shape_withConfig, target_append (isTarget_target _).1 h]

lemma withConfig_withConfig (v : Json) (h : IsNamed members) (members' : Members) :
    withConfig (withConfig v members) members' = withConfig v members' := by
  rw [withConfig, shape_withConfig, target_append (isTarget_target _).1 h, set_set]
  rfl

lemma withConfig_inj {v : Json} {members' : Members}
    (h : withConfig v members = withConfig v members') : members = members' := by
  have hlists := congrArg (Members.get? "configurations") (Json.obj.inj h)
  rw [get?_set, get?_set, if_pos rfl, if_pos rfl] at hlists
  have hlist := List.append_cancel_left (Json.arr.inj (Option.some.inj hlists))
  exact Json.obj.inj (List.cons.inj hlist).1

end SketchBuild.Properties
