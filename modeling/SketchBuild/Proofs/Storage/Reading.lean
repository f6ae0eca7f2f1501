import Mathlib.Tactic.Lemma
import SketchBuild.Storage

namespace SketchBuild.Storage

variable {α β : Type}

lemma value_run_bind (x : Reading α) (f : α → Reading β) :
    (x >>= f).run.value =
      match x.run.value with
      | .ok a => (f a).run.value
      | .error e => .error e := by
  rw [ExceptT.run_bind, Noted.value_bind]
  cases x.run.value <;> rfl

lemma value_run_lift (x : Noted α) : (liftM x : Reading α).run.value = .ok x.value := rfl

lemma value_run_lift_bind (x : Noted α) (f : α → Reading β) :
    ((liftM x : Reading α) >>= f).run.value = (f x.value).run.value := by
  rw [value_run_bind, value_run_lift]

lemma value_run_pure (a : α) : (pure a : Reading α).run.value = .ok a := rfl

lemma value_readJson (d : Disk) (path : Text) : (readJson d path).value = document d path := rfl

lemma value_run_load (d : Disk) (path : Text) : (load d path).run.value = document d path := rfl

lemma value_run_load_bind {d : Disk} {path : Text} {e : Oversized} (h : document d path = .error e)
    (f : Document → Reading β) : (load d path >>= f).run.value = .error e := by
  rw [value_run_bind, value_run_load, h]

lemma value_run_bind_eq_error {x : Reading α} {f : α → Reading β} {e : Oversized} :
    (x >>= f).run.value = .error e ↔
      x.run.value = .error e ∨ ∃ a, x.run.value = .ok a ∧ (f a).run.value = .error e := by
  rw [value_run_bind]
  cases x.run.value with
  | error e' => simp
  | ok a => simp

lemma value_run_pure_ne_error (a : α) (e : Oversized) :
    (pure a : Reading α).run.value ≠ .error e := by
  simp

end SketchBuild.Storage
