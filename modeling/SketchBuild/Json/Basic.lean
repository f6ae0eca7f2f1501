import SketchBuild.Decimal.Binary64
import SketchBuild.Table
import SketchBuild.Text.Basic

namespace SketchBuild

inductive Json where
  | null
  | bool (b : Bool)
  | int (n : Int)
  | float (x : Binary64)
  | str (s : Text)
  | arr (items : List Json)
  | obj (members : List (Text × Json))

namespace Json

mutual

def same : Json → Json → Bool
  | .null, .null => true
  | .bool a, .bool b => a = b
  | .int a, .int b => a = b
  | .float a, .float b => a = b
  | .str a, .str b => a = b
  | .arr as, .arr bs => sameItems as bs
  | .obj as, .obj bs => sameMembers as bs
  | _, _ => false

def sameItems : List Json → List Json → Bool
  | [], [] => true
  | a :: as, b :: bs => same a b && sameItems as bs
  | _, _ => false

def sameMembers : List (Text × Json) → List (Text × Json) → Bool
  | [], [] => true
  | (k, a) :: as, (l, b) :: bs => k = l && same a b && sameMembers as bs
  | _, _ => false

end

mutual

theorem eq_of_same : ∀ {a b : Json}, same a b = true → a = b
  | .null, b, h => by cases b <;> simp [same] at h; rfl
  | .bool _, b, h => by cases b <;> simp [same] at h; rw [h]
  | .int _, b, h => by cases b <;> simp [same] at h; rw [h]
  | .float _, b, h => by cases b <;> simp [same] at h; rw [h]
  | .str _, b, h => by cases b <;> simp [same] at h; rw [h]
  | .arr _, b, h => by cases b <;> simp only [same, Bool.false_eq_true] at h; rw [eq_of_sameItems h]
  | .obj _, b, h => by cases b <;> simp only [same, Bool.false_eq_true] at h; rw [eq_of_sameMembers h]

theorem eq_of_sameItems : ∀ {as bs : List Json}, sameItems as bs = true → as = bs
  | [], bs, h => by cases bs <;> simp [sameItems] at h; rfl
  | _ :: _, bs, h => by
    cases bs with
    | nil => simp [sameItems] at h
    | cons b bs =>
      simp only [sameItems, Bool.and_eq_true] at h
      rw [eq_of_same h.1, eq_of_sameItems h.2]

theorem eq_of_sameMembers : ∀ {as bs : List (Text × Json)}, sameMembers as bs = true → as = bs
  | [], bs, h => by cases bs <;> simp [sameMembers] at h; rfl
  | (_, _) :: _, bs, h => by
    cases bs with
    | nil => simp [sameMembers] at h
    | cons b bs =>
      obtain ⟨l, b⟩ := b
      simp only [sameMembers, Bool.and_eq_true, decide_eq_true_eq] at h
      rw [h.1.1, eq_of_same h.1.2, eq_of_sameMembers h.2]

end

mutual

theorem same_self : ∀ a : Json, same a a = true
  | .null => rfl
  | .bool _ | .int _ | .float _ | .str _ => by simp [same]
  | .arr as => sameItems_self as
  | .obj as => sameMembers_self as

theorem sameItems_self : ∀ as : List Json, sameItems as as = true
  | [] => rfl
  | a :: as => by simp [sameItems, same_self a, sameItems_self as]

theorem sameMembers_self : ∀ as : List (Text × Json), sameMembers as as = true
  | [] => rfl
  | (_, a) :: as => by simp [sameMembers, same_self a, sameMembers_self as]

end

instance : DecidableEq Json := fun a b =>
  if h : same a b then .isTrue (eq_of_same h) else .isFalse fun e => h (e ▸ same_self a)

instance : Inhabited Json := ⟨.null⟩

abbrev Members := Table Text Json

def Members.get? (name : Text) (members : Members) : Option Json := Table.find? name members

def Members.set (name : Text) (v : Json) (members : Members) : Members := Table.put name v members

def Members.setNew (name : Text) (v : Json) (members : Members) : Members :=
  Table.putNew name v members

def member? (name : Text) : Json → Option Json
  | .obj members => Members.get? name members
  | _ => none

def text? : Json → Option Text
  | .str s => some s
  | _ => none

def items? : Json → Option (List Json)
  | .arr items => some items
  | _ => none

def textAt? (name : Text) (v : Json) : Option Text := (v.member? name).bind text?

def isTruthy : Json → Bool
  | .null => false
  | .bool b => b
  | .int n => n ≠ 0
  | .float (.finite _ mantissa _ _) => mantissa ≠ 0
  | .float _ => true
  | .str s => s ≠ []
  | .arr items => !items.isEmpty
  | .obj members => !members.isEmpty

def kindName : Json → Text
  | .null => "NoneType"
  | .bool _ => "bool"
  | .int _ => "int"
  | .float _ => "float"
  | .str _ => "str"
  | .arr _ => "list"
  | .obj _ => "dict"

end Json

end SketchBuild
