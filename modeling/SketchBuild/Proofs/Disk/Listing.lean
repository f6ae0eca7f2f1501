import SketchBuild.Proofs.Disk.Directories
import SketchBuild.Proofs.Disk.Preorder

namespace SketchBuild

namespace Node

/-- Whether two nodes hold the same directories and files, in whatever order their directories list them. -/
structure IsSameTree (n n' : Node) : Prop where
  hasDir : ∀ l, n.HasDir l ↔ n'.HasDir l
  file : ∀ l bytes, n.find? l = some (.file bytes) ↔ n'.find? l = some (.file bytes)

namespace IsSameTree

variable {n n' : Node}

@[refl] lemma refl (n : Node) : IsSameTree n n := ⟨fun _ => Iff.rfl, fun _ _ => Iff.rfl⟩

@[symm] lemma symm (h : IsSameTree n n') : IsSameTree n' n :=
  ⟨fun l => (h.hasDir l).symm, fun l bytes => (h.file l bytes).symm⟩

lemma exists_find? (h : IsSameTree n n') {l : List Text} {c : Node} (hc : n.find? l = some c) :
    ∃ c', n'.find? l = some c' ∧ IsSameTree c c' := by
  cases c with
  | file bytes => exact ⟨.file bytes, (h.file l bytes).mp hc, refl _⟩
  | dir members =>
    obtain ⟨members', hc'⟩ := (h.hasDir l).mp ⟨members, hc⟩
    refine ⟨.dir members', hc', ?_, ?_⟩
    · intro r
      have hdir := h.hasDir (l ++ r)
      rwa [HasDir, HasDir, find?_append, find?_append, hc, hc'] at hdir
    · intro r bytes
      have hfile := h.file (l ++ r) bytes
      rwa [find?_append, find?_append, hc, hc'] at hfile

lemma isListed_iff (h : IsSameTree n n') {visited : Text → Text → Prop} {top : Text} {s : Spot} :
    IsListed visited top n s ↔ IsListed visited top n' s := by
  have hfile : (∃ bytes, n.find? (s.dirs ++ [s.name]) = some (.file bytes)) ↔
      ∃ bytes, n'.find? (s.dirs ++ [s.name]) = some (.file bytes) :=
    exists_congr fun bytes => h.file _ bytes
  exact ⟨fun hs => ⟨hfile.mp hs.file, hs.visited⟩, fun hs => ⟨hfile.mpr hs.file, hs.visited⟩⟩

theorem files_eq (h : IsSameTree n n') (hn : n.HasDistinctNames) (hn' : n'.HasDistinctNames)
    (enters : Text → Text → Bool) (top : Text) : n.files enters top = n'.files enters top := by
  -- Both lists are the listed spots in their order, which is told without the members' own order.
  obtain ⟨spots, hfiles, hspots⟩ := exists_isPreorder enters hn top
  obtain ⟨spots', hfiles', hspots'⟩ := exists_isPreorder enters hn' top
  have hsame : IsPreorder (fun dir name => enters dir name = true) top n' spots :=
    ⟨hspots.ordered, fun s => (hspots.mem s).trans h.isListed_iff⟩
  rw [hfiles, hfiles', hsame.unique hspots']

end IsSameTree

section Relist

variable {members members' : List (Text × Node)}

lemma isSameTree_dir (h : ∀ a, Option.Rel IsSameTree (Table.find? a members) (Table.find? a members')) :
    IsSameTree (.dir members) (.dir members') := by
  constructor
  · rintro (_ | ⟨a, l⟩)
    · exact ⟨fun _ => ⟨members', rfl⟩, fun _ => ⟨members, rfl⟩⟩
    · have ha := h a
      rw [hasDir_cons, hasDir_cons]
      generalize Table.find? a members = c, Table.find? a members' = c' at ha
      rcases ha with hc | _
      · simp [hc.hasDir]
      · simp
  · rintro (_ | ⟨a, l⟩) bytes
    · simp [find?]
    · have ha := h a
      rw [find?, find?, member?, member?]
      generalize Table.find? a members = c, Table.find? a members' = c' at ha
      rcases ha with hc | _
      · exact hc.file l bytes
      · rfl

lemma isSameTree_of_perm (hnodup : (Table.keys members).Nodup) (h : members'.Perm members) :
    IsSameTree (.dir members) (.dir members') := by
  apply isSameTree_dir
  intro a
  have hnodup' : (Table.keys members').Nodup := (h.map Prod.fst).nodup_iff.mpr hnodup
  have hfind : Table.find? a members = Table.find? a members' := by
    ext c
    rw [Table.find?_eq_some_iff hnodup, Table.find?_eq_some_iff hnodup', h.mem_iff]
  rw [hfind]
  cases Table.find? a members' with
  | none => exact .none
  | some c => exact .some (.refl c)

lemma isSameTree_modify {n : Node} {l : List Text} {f : Table Text Node → Table Text Node}
    (hl : n.find? l = some (.dir members)) (hnodup : (Table.keys members).Nodup)
    (hf : (f members).Perm members) : IsSameTree n (n.modify f l) := by
  induction l generalizing n with
  | nil =>
    obtain rfl := Option.some.inj hl
    exact isSameTree_of_perm hnodup hf
  | cons a l ih =>
    cases n with
    | file bytes => simp [find?, member?] at hl
    | dir ms =>
      rw [find?, member?] at hl
      obtain ⟨c, hc, hl⟩ := Option.bind_eq_some_iff.mp hl
      rw [modify, hc]
      apply isSameTree_dir
      intro b
      rw [Table.find?_put]
      split
      · rename_i hab
        rw [← hab, hc]
        exact .some (ih hl)
      · cases Table.find? b ms with
        | none => exact .none
        | some e => exact .some (.refl e)

end Relist

end Node

namespace Disk

structure IsSameTree (d d' : Disk) : Prop where
  here : d'.here = d.here
  root : d.root.IsSameTree d'.root

variable {d d' : Disk} {path : Text}

lemma hasDistinctNames_of_node? (hd : d.root.HasDistinctNames) {n : Node} (hn : d.node? path = some n) :
    n.HasDistinctNames := by
  rw [node?] at hn
  split at hn
  · rename_i l node hplace
    obtain rfl := Option.some.inj hn
    exact hd.below (isOn_of_walk (walk_of_place hplace).2.1)
  · simp at hn

namespace IsSameTree

@[symm] lemma symm (h : IsSameTree d d') : IsSameTree d' d := ⟨h.here.symm, h.root.symm⟩

lemma cwd_eq (h : IsSameTree d d') : d'.cwd = d.cwd := by
  rw [cwd, cwd, h.here]

lemma exists_dir (h : IsSameTree d d') {members : List (Text × Node)}
    (hm : d.node? path = some (.dir members)) :
    ∃ members', d'.node? path = some (.dir members') ∧ Node.IsSameTree (.dir members) (.dir members') := by
  have hdir : d.isDir path = true := by rw [isDir, hm]
  obtain ⟨hne, l, ms, hwalk⟩ := walk_of_isDir hdir
  obtain rfl : members = ms := by
    simpa [hm] using node?_of_walk_dir hne hwalk
  obtain ⟨n, hn, hsame⟩ := h.root.exists_find? (isOn_of_walk hwalk)
  obtain ⟨members', hn'⟩ := (hsame.hasDir []).mp ⟨members, rfl⟩
  obtain rfl : n = .dir members' := Option.some.inj hn'
  have hwalk' := walk_of_keepsDirs (fun k => (h.root.hasDir k).mp) hwalk hn
  rw [← origin_congr h.here] at hwalk'
  exact ⟨members', node?_of_walk_dir hne hwalk', hsame⟩

lemma isDir_eq (h : IsSameTree d d') : d'.isDir path = d.isDir path := by
  have himp : ∀ {e e' : Disk}, IsSameTree e e' → e.isDir path = true → e'.isDir path = true := by
    intro e e' he hdir
    obtain ⟨hne, l, members, hwalk⟩ := walk_of_isDir hdir
    obtain ⟨members', hnode, _⟩ := he.exists_dir (node?_of_walk_dir hne hwalk)
    rw [isDir, hnode]
  exact Bool.eq_iff_iff.mpr ⟨himp h.symm, himp h⟩

end IsSameTree

end Disk

end SketchBuild
