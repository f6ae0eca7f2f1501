import SketchBuild.Proofs.Disk.Walk

namespace SketchBuild

namespace Node

lemma modify_modify (f g : Table Text Node → Table Text Node) (n : Node) (l : List Text) :
    (n.modify f l).modify g l = n.modify (g ∘ f) l := by
  induction l generalizing n with
  | nil => cases n <;> rfl
  | cons a l ih =>
    cases n with
    | file bytes => rfl
    | dir members =>
      rw [modify, modify]
      cases ha : Table.find? a members with
      | none => simp [modify, ha]
      | some c => simp [modify, Table.find?_put, Table.put_put, ih]

lemma modify_self {f : Table Text Node → Table Text Node} {n : Node} {l : List Text}
    (h : ∀ members, n.find? l = some (.dir members) → f members = members) : n.modify f l = n := by
  induction l generalizing n with
  | nil =>
    cases n with
    | file bytes => rfl
    | dir members => rw [modify, h members rfl]
  | cons a l ih =>
    cases n with
    | file bytes => rfl
    | dir members =>
      rw [modify]
      cases ha : Table.find? a members with
      | none => rfl
      | some c =>
        have hc : c.modify f l = c := ih fun ms hms => h ms (by rw [find?, member?, ha]; exact hms)
        dsimp only
        rw [hc, Table.put_self ha]

lemma find?_modify_of_not_prefix {f : Table Text Node → Table Text Node} {n : Node}
    {l k : List Text} (hk : ¬k <+: l)
    (hf : ∀ members a r, k = l ++ a :: r → Table.find? a (f members) = Table.find? a members) :
    (n.modify f l).find? k = n.find? k := by
  induction l generalizing n k with
  | nil =>
    cases k with
    | nil => exact (hk List.prefix_rfl).elim
    | cons a r =>
      cases n with
      | file bytes => rfl
      | dir members => rw [modify, find?, find?, member?, member?, hf members a r rfl]
  | cons b l ih =>
    cases n with
    | file bytes => rfl
    | dir members =>
      rw [modify]
      cases hb : Table.find? b members with
      | none => rfl
      | some c =>
        cases k with
        | nil => exact (hk List.nil_prefix).elim
        | cons a r =>
          dsimp only
          rw [find?, find?, member?, member?, Table.find?_put]
          by_cases hab : b = a
          · subst hab
            have hr : ¬r <+: l := fun h => hk (List.cons_prefix_cons.mpr ⟨rfl, h⟩)
            rw [if_pos rfl, hb, Option.bind_some, Option.bind_some]
            exact ih hr fun ms x s hs => hf ms x s (by rw [hs, List.cons_append])
          · rw [if_neg hab]

lemma HasDir.of_append {n : Node} {l r : List Text} (h : n.HasDir (l ++ r)) : n.HasDir l := by
  obtain ⟨members, hm⟩ := h
  rw [find?_append] at hm
  obtain ⟨c, hc, hr⟩ := Option.bind_eq_some_iff.mp hm
  cases c with
  | file bytes => exact (hasDir_file ⟨members, hr⟩).elim
  | dir ms => exact ⟨ms, hc⟩

lemma HasDir.of_prefix {n : Node} {l k : List Text} (h : n.HasDir l) (hk : k <+: l) : n.HasDir k := by
  obtain ⟨r, rfl⟩ := hk
  exact h.of_append

lemma find?_eq_none_of_append {n : Node} {l : List Text} (h : n.find? l = none) (r : List Text) :
    n.find? (l ++ r) = none := by
  rw [find?_append, h, Option.bind_none]

lemma find?_below_file {n : Node} {l : List Text} {bytes : List UInt8}
    (h : n.find? l = some (.file bytes)) {r : List Text} (hr : r ≠ []) : n.find? (l ++ r) = none := by
  cases r with
  | nil => exact (hr rfl).elim
  | cons a r =>
    rw [find?_append, h]
    rfl

end Node

namespace Disk

variable {d : Disk} {dir : List Text}

lemma not_hasDir_of_file {l : List Text} {bytes : List UInt8}
    (h : d.root.find? l = some (.file bytes)) : ¬d.root.HasDir l := by
  rintro ⟨members, hm⟩
  simp [h] at hm

lemma not_hasDir_of_none {l : List Text} (h : d.root.find? l = none) : ¬d.root.HasDir l := by
  rintro ⟨members, hm⟩
  simp [h] at hm

lemma find?_setMember_other {name : Text} {node : Node} {k : List Text} (hk : ¬k <+: dir)
    (hn : ¬dir ++ [name] <+: k) : (d.setMember dir name node).root.find? k = d.root.find? k := by
  apply Node.find?_modify_of_not_prefix hk
  rintro members a r rfl
  have ha : name ≠ a := by
    rintro rfl
    exact hn ⟨r, by simp⟩
  rw [Table.find?_put, if_neg ha]

lemma find?_dropMember_other {name : Text} {k : List Text} (hk : ¬k <+: dir)
    (hn : ¬dir ++ [name] <+: k) : (d.dropMember dir name).root.find? k = d.root.find? k := by
  apply Node.find?_modify_of_not_prefix hk
  rintro members a r rfl
  have ha : name ≠ a := by
    rintro rfl
    exact hn ⟨r, by simp⟩
  rw [Table.find?_erase, if_neg ha]

lemma find?_dropMember (h : d.root.HasDir dir) (name : Text) :
    (d.dropMember dir name).root.find? (dir ++ [name]) = none := by
  obtain ⟨members, hm⟩ := h
  rw [dropMember, Node.find?_concat (Node.find?_modify _ hm), Table.find?_erase, if_pos rfl]

lemma dropMember_setMember (name : Text) (node : Node) :
    (d.setMember dir name node).dropMember dir name = d.dropMember dir name := by
  rw [dropMember, setMember, dropMember, Node.modify_modify]
  congr 2
  funext members
  exact Table.erase_put name node members

lemma setMember_self {name : Text} {node : Node}
    (h : d.root.find? (dir ++ [name]) = some node) : d.setMember dir name node = d := by
  have hroot : d.root.modify (Table.put name node) dir = d.root := by
    apply Node.modify_self
    intro members hm
    apply Table.put_self
    rwa [Node.find?_concat hm] at h
  rw [setMember, hroot]

lemma dropMember_self {name : Text} (h : d.root.find? (dir ++ [name]) = none) :
    d.dropMember dir name = d := by
  have hroot : d.root.modify (Table.erase name) dir = d.root := by
    apply Node.modify_self
    intro members hm
    apply Table.erase_self
    rwa [Node.find?_concat hm] at h
  rw [dropMember, hroot]

lemma dropAt_concat (name : Text) : d.dropAt (dir ++ [name]) = d.dropMember dir name := by
  simp [dropAt]

lemma setAt_concat (name : Text) (node : Node) :
    d.setAt (dir ++ [name]) node = d.setMember dir name node := by
  simp [setAt]

end Disk

end SketchBuild
