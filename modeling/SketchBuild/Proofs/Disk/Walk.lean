import Mathlib.Tactic.Lemma
import SketchBuild.Disk.Change
import SketchBuild.Proofs.Table

namespace SketchBuild

namespace Node

lemma find?_append (n : Node) (l r : List Text) :
    n.find? (l ++ r) = (n.find? l).bind (find? · r) := by
  induction l generalizing n with
  | nil => rfl
  | cons a l ih =>
    rw [List.cons_append, find?, find?]
    cases n.member? a with
    | none => rfl
    | some c => exact ih c

lemma find?_concat {n : Node} {l : List Text} {members : List (Text × Node)}
    (h : n.find? l = some (.dir members)) (name : Text) :
    n.find? (l ++ [name]) = Table.find? name members := by
  rw [find?_append, h, Option.bind_some, find?, member?]
  cases Table.find? name members <;> rfl

lemma exists_dir_of_concat {n c : Node} {l : List Text} {a : Text}
    (h : n.find? (l ++ [a]) = some c) :
    ∃ members, n.find? l = some (.dir members) ∧ Table.find? a members = some c := by
  rw [find?_append] at h
  obtain ⟨m, hm, hc⟩ := Option.bind_eq_some_iff.mp h
  cases m with
  | file bytes => simp [find?, member?] at hc
  | dir members =>
    refine ⟨members, hm, ?_⟩
    simpa [find?, member?] using hc

lemma find?_modify {n : Node} {l : List Text} {members : List (Text × Node)}
    (f : Table Text Node → Table Text Node) (h : n.find? l = some (.dir members)) :
    (n.modify f l).find? l = some (.dir (f members)) := by
  induction l generalizing n with
  | nil =>
    obtain rfl := Option.some.inj h
    rfl
  | cons a l ih =>
    cases n with
    | file bytes => simp [find?, member?] at h
    | dir ms =>
      rw [find?, member?] at h
      obtain ⟨c, hc, hl⟩ := Option.bind_eq_some_iff.mp h
      rw [modify, hc]
      dsimp only
      rw [find?, member?, Table.find?_put, if_pos rfl]
      exact ih hl

def HasDir (n : Node) (l : List Text) : Prop := ∃ members, n.find? l = some (.dir members)

lemma hasDir_cons {members : List (Text × Node)} {a : Text} {l : List Text} :
    HasDir (.dir members) (a :: l) ↔ ∃ c, Table.find? a members = some c ∧ c.HasDir l := by
  constructor
  · rintro ⟨ms, h⟩
    obtain ⟨c, hc, hl⟩ := Option.bind_eq_some_iff.mp h
    exact ⟨c, hc, ms, hl⟩
  · rintro ⟨c, hc, ms, hl⟩
    refine ⟨ms, ?_⟩
    rw [find?, member?, hc]
    exact hl

lemma hasDir_file {bytes : List UInt8} {l : List Text} : ¬HasDir (.file bytes) l := by
  rintro ⟨ms, h⟩
  cases l with
  | nil => simp [find?] at h
  | cons a l => simp [find?, member?] at h

lemma HasDir.modify {f : Table Text Node → Table Text Node} {n : Node} {l : List Text}
    (hf : ∀ members, n.find? l = some (.dir members) → ∀ a ms,
      Table.find? a members = some (.dir ms) → Table.find? a (f members) = some (.dir ms))
    {k : List Text} (h : n.HasDir k) : (n.modify f l).HasDir k := by
  induction l generalizing n k with
  | nil =>
    cases n with
    | file bytes => exact (hasDir_file h).elim
    | dir members =>
      cases k with
      | nil => exact ⟨f members, rfl⟩
      | cons a k =>
        obtain ⟨c, hc, hk⟩ := hasDir_cons.mp h
        cases c with
        | file bytes => exact (hasDir_file hk).elim
        | dir ms => exact hasDir_cons.mpr ⟨.dir ms, hf members rfl a ms hc, hk⟩
  | cons b l ih =>
    cases n with
    | file bytes => exact (hasDir_file h).elim
    | dir members =>
      rw [Node.modify]
      cases hb : Table.find? b members with
      | none => exact h
      | some c =>
        dsimp only
        cases k with
        | nil => exact ⟨_, rfl⟩
        | cons a k =>
          obtain ⟨e, he, hk⟩ := hasDir_cons.mp h
          apply hasDir_cons.mpr
          rw [Table.find?_put]
          by_cases hab : b = a
          · subst hab
            rw [hb] at he
            obtain rfl := Option.some.inj he
            rw [if_pos rfl]
            refine ⟨_, rfl, ih (fun ms hms => hf ms ?_) hk⟩
            rw [find?, member?, hb]
            exact hms
          · rw [if_neg hab]
            exact ⟨e, he, hk⟩

end Node

namespace Disk

def KeepsDirs (d d' : Disk) : Prop := ∀ l, d.root.HasDir l → d'.root.HasDir l

lemma KeepsDirs.trans {d d' d'' : Disk} (h : KeepsDirs d d') (h' : KeepsDirs d' d'') :
    KeepsDirs d d'' := fun l hl => h' l (h l hl)

lemma keepsDirs_setMember {d : Disk} {dir : List Text} {name : Text} (node : Node)
    (h : ¬d.root.HasDir (dir ++ [name])) : KeepsDirs d (d.setMember dir name node) := by
  intro l hl
  apply Node.HasDir.modify _ hl
  intro members hdir a ms ha
  rw [Table.find?_put]
  split
  · rename_i hname
    refine (h ⟨ms, ?_⟩).elim
    rw [hname, Node.find?_concat hdir, ha]
  · exact ha

lemma keepsDirs_dropMember {d : Disk} {dir : List Text} {name : Text}
    (h : ¬d.root.HasDir (dir ++ [name])) : KeepsDirs d (d.dropMember dir name) := by
  intro l hl
  apply Node.HasDir.modify _ hl
  intro members hdir a ms ha
  rw [Table.find?_erase]
  split
  · rename_i hname
    refine (h ⟨ms, ?_⟩).elim
    rw [hname, Node.find?_concat hdir, ha]
  · exact ha

lemma find?_setMember {d : Disk} {dir : List Text} (h : d.root.HasDir dir) (name : Text)
    (node : Node) : (d.setMember dir name node).root.find? (dir ++ [name]) = some node := by
  obtain ⟨members, hm⟩ := h
  rw [setMember, Node.find?_concat (Node.find?_modify _ hm), Table.find?_put, if_pos rfl]

lemma walk_nil (d : Disk) (l : List Text) :
    walk d l [] =
      match d.root.find? l with
      | none => .error .missing
      | some node => .ok (.taken l node) := by
  rw [walk.eq_def]
  cases d.root.find? l <;> rfl

lemma walk_cons {d : Disk} {l : List Text} {members : List (Text × Node)}
    (h : d.root.find? l = some (.dir members)) (part : Text) (rest : List Text) :
    walk d l (part :: rest) =
      if part = ['.'] then walk d l rest
      else if part = ['.', '.'] then walk d l.dropLast rest
      else if rest = [] && (Table.find? part members).isNone then .ok (.free l part)
      else walk d (l ++ [part]) rest := by
  rw [walk.eq_def, h]

lemma hasDir_of_walk_cons {d : Disk} {l : List Text} {part : Text} {rest : List Text} {p : Place}
    (h : walk d l (part :: rest) = .ok p) : d.root.HasDir l := by
  rw [walk.eq_def] at h
  cases hn : d.root.find? l with
  | none => simp [hn] at h
  | some n =>
    cases n with
    | file bytes => simp [hn] at h
    | dir members => exact ⟨members, hn⟩

def Place.IsOn (d : Disk) : Place → Prop
  | .taken l node => d.root.find? l = some node
  | .free dir name => d.root.HasDir dir ∧ d.root.find? (dir ++ [name]) = none

lemma isOn_of_walk {d : Disk} {l : List Text} {parts : List Text} {p : Place}
    (h : walk d l parts = .ok p) : p.IsOn d := by
  induction parts generalizing l with
  | nil =>
    rw [walk_nil] at h
    cases hn : d.root.find? l with
    | none => simp [hn] at h
    | some n =>
      rw [hn] at h
      obtain rfl := Except.ok.inj h
      exact hn
  | cons part rest ih =>
    obtain ⟨members, hm⟩ := hasDir_of_walk_cons h
    rw [walk_cons hm] at h
    split at h
    · exact ih h
    · split at h
      · exact ih h
      · split at h
        · rename_i hfree
          obtain rfl := Except.ok.inj h
          refine ⟨⟨members, hm⟩, ?_⟩
          simp only [Bool.and_eq_true, decide_eq_true_eq, Option.isNone_iff_eq_none] at hfree
          rw [Node.find?_concat hm, hfree.2]
        · exact ih h

def Place.location : Place → List Text
  | .taken l _ => l
  | .free dir name => dir ++ [name]

lemma location_of_walk_nil {d : Disk} {l : List Text} {p : Place} (h : walk d l [] = .ok p) :
    p.location = l := by
  rw [walk_nil] at h
  cases hl : d.root.find? l with
  | none => simp [hl] at h
  | some n =>
    rw [hl] at h
    obtain rfl := Except.ok.inj h
    rfl

lemma walk_of_keepsDirs {d d' : Disk} (hd : KeepsDirs d d') {l parts : List Text} {p : Place}
    (h : walk d l parts = .ok p) {node : Node}
    (hn : d'.root.find? p.location = some node) :
    walk d' l parts = .ok (.taken p.location node) := by
  induction parts generalizing l with
  | nil =>
    rw [location_of_walk_nil h] at hn ⊢
    rw [walk_nil, hn]
  | cons part rest ih =>
    obtain ⟨members, hm⟩ := hasDir_of_walk_cons h
    obtain ⟨members', hm'⟩ := hd l ⟨members, hm⟩
    rw [walk_cons hm] at h
    rw [walk_cons hm']
    split at h
    · rename_i hdot
      rw [if_pos hdot]
      exact ih h
    · rename_i hdot
      rw [if_neg hdot]
      split at h
      · rename_i hup
        rw [if_pos hup]
        exact ih h
      · rename_i hup
        rw [if_neg hup]
        have hmember : p.location = l ++ [part] → (Table.find? part members').isNone = false := by
          intro hk
          rw [hk, Node.find?_concat hm'] at hn
          rw [hn, Option.isNone_some]
        split at h
        · rename_i hfree
          obtain rfl := Except.ok.inj h
          simp only [Bool.and_eq_true, decide_eq_true_eq] at hfree
          rw [hmember rfl, Bool.and_false, if_neg (by simp), hfree.1, walk_nil]
          rw [Place.location] at hn ⊢
          rw [hn]
        · by_cases hrest : rest = []
          · subst hrest
            rw [hmember (location_of_walk_nil h), Bool.and_false, if_neg (by simp)]
            exact ih h
          · rw [decide_eq_false hrest, Bool.false_and, if_neg (by simp)]
            exact ih h

end Disk

end SketchBuild
