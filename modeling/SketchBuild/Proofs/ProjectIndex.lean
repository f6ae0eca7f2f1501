import SketchBuild.ProjectIndex
import SketchBuild.Proofs.Disk.Listing

namespace SketchBuild.ProjectIndex

open SketchBuild.Node (Spot IsListed IsPreorder)

structure Meeting where
  index : Nat
  root : Text
  spot : Spot

namespace Meeting

def name (m : Meeting) : Text := m.spot.name

def path (m : Meeting) : Text := m.spot.path m.root

def row (m : Meeting) : Text × Text := (m.name, m.path)

/-- The order in which files are met: root by root, and below a root in the order of its tree. -/
inductive Before (m m' : Meeting) : Prop
  | root (h : m.index < m'.index) : Before m m'
  | spot (hindex : m.index = m'.index) (h : m.spot.Before m'.spot) : Before m m'

lemma Before.asymm {m m' : Meeting} (h : Before m m') : ¬Before m' m := by
  rintro (h' | ⟨hindex, h'⟩)
  · rcases h with h | ⟨hindex, _⟩
    · exact Nat.lt_asymm h h'
    · exact Nat.lt_irrefl _ (hindex ▸ h')
  · rcases h with h | ⟨_, h⟩
    · exact Nat.lt_irrefl _ (hindex ▸ h)
    · exact h.asymm h'

end Meeting

/-- Whether files are looked for in a subdirectory of a directory. -/
structure IsOpen (d : Disk) (excludedDirs : List Text) (dir name : Text) : Prop where
  visible : name.head? ≠ some '.'
  kept : name ∉ skippedDirs
  included : ∀ excluded ∈ excludedDirs, excluded ≠ [] →
    Path.normalize (Path.join dir name) ≠ Path.absolute d.cwd excluded

structure IsMet (d : Disk) (roots excludedDirs : List Text) (m : Meeting) : Prop where
  root : roots[m.index]? = some m.root
  listed : ∃ node, d.node? m.root = some node ∧ node.IsListed (IsOpen d excludedDirs) m.root m.spot

structure IsFirst (d : Disk) (roots excludedDirs : List Text) (m : Meeting) : Prop where
  met : IsMet d roots excludedDirs m
  first : ∀ m', IsMet d roots excludedDirs m' → m'.name = m.name → m' = m ∨ m.Before m'

structure IsIndex (d : Disk) (roots excludedDirs : List Text) (index : ProjectIndex) : Prop where
  names : ∀ name, name ∈ Table.keys index ↔ ∃ m, IsMet d roots excludedDirs m ∧ m.name = name
  lookup : ∀ name path, index.lookup? name = some path ↔
    ∃ m, IsFirst d roots excludedDirs m ∧ m.name = name ∧ m.path = path
  rows : ∃ firsts : List Meeting, firsts.Pairwise Meeting.Before ∧
    (∀ m, m ∈ firsts ↔ IsFirst d roots excludedDirs m) ∧ index = firsts.map Meeting.row

section Meetings

variable {d : Disk} {roots excludedDirs : List Text}

def excludedPaths (d : Disk) (excludedDirs : List Text) : List Text :=
  (excludedDirs.filter (· ≠ [])).map (Path.absolute d.cwd)

lemma enters_iff {dir name : Text} :
    enters (excludedPaths d excludedDirs) dir name = true ↔ IsOpen d excludedDirs dir name := by
  have hexcluded : Path.normalize (Path.join dir name) ∉ excludedPaths d excludedDirs ↔
      ∀ excluded ∈ excludedDirs, excluded ≠ [] →
        Path.normalize (Path.join dir name) ≠ Path.absolute d.cwd excluded := by
    simp only [excludedPaths, List.mem_map, List.mem_filter, decide_eq_true_eq, not_exists, not_and,
      and_imp]
    exact forall_congr' fun _ => forall₂_congr fun _ _ => ne_comm
  simp only [enters, Bool.and_eq_true, decide_eq_true_eq, hexcluded]
  exact ⟨fun ⟨⟨hkept, hvisible⟩, h⟩ => ⟨hvisible, hkept, h⟩, fun h => ⟨⟨h.kept, h.visible⟩, h.included⟩⟩

lemma exists_spots (hd : d.root.HasDistinctNames) (excludedDirs : List Text) (root : Text) :
    ∃ spots : List Spot, filesBelow d (excludedPaths d excludedDirs) root = spots.map (Spot.row root) ∧
      spots.Pairwise Spot.Before ∧ ∀ s, s ∈ spots ↔
        ∃ node, d.node? root = some node ∧ node.IsListed (IsOpen d excludedDirs) root s := by
  cases hnode : d.node? root with
  | none =>
    refine ⟨[], ?_, List.Pairwise.nil, by simp⟩
    rw [filesBelow, hnode]
    rfl
  | some node =>
    obtain ⟨spots, hfiles, hspots⟩ := Node.exists_isPreorder (enters (excludedPaths d excludedDirs))
      (Disk.hasDistinctNames_of_node? hd hnode) root
    simp only [enters_iff] at hspots
    refine ⟨spots, ?_, hspots.ordered, ?_⟩
    · rw [filesBelow, hnode]
      exact hfiles
    · simpa using hspots.mem

lemma exists_meetings (hd : d.root.HasDistinctNames) (roots excludedDirs : List Text) :
    ∃ meetings : List Meeting, meetings.Pairwise Meeting.Before ∧
      (∀ m, m ∈ meetings ↔ IsMet d roots excludedDirs m) ∧
      roots.flatMap (filesBelow d (excludedPaths d excludedDirs)) = meetings.map Meeting.row := by
  choose spots hfiles hspots hmem using exists_spots hd excludedDirs
  refine ⟨roots.zipIdx.flatMap fun r => (spots r.1).map (Meeting.mk r.2 r.1), ?_, ?_, ?_⟩
  · apply List.pairwise_flatMap.mpr
    constructor
    · intro r _
      refine List.pairwise_map.mpr ((hspots r.1).imp ?_)
      intro s s' hbefore
      exact Meeting.Before.spot rfl hbefore
    · have hindices : roots.zipIdx.Pairwise fun r r' => r.2 < r'.2 := by
        apply List.pairwise_map.mp
        rw [List.zipIdx_map_snd]
        exact List.pairwise_lt_range' 1
      apply hindices.imp
      intro r r' hlt m hm m' hm'
      obtain ⟨s, _, rfl⟩ := List.mem_map.mp hm
      obtain ⟨s', _, rfl⟩ := List.mem_map.mp hm'
      exact Meeting.Before.root hlt
  · rintro ⟨index, root, s⟩
    simp only [List.mem_flatMap, List.mem_map, Meeting.mk.injEq, List.mem_zipIdx_iff_getElem?]
    constructor
    · rintro ⟨r, hr, s, hs, rfl, rfl, rfl⟩
      exact ⟨hr, (hmem r.1 s).mp hs⟩
    · rintro ⟨hr, hs⟩
      exact ⟨(root, index), hr, s, (hmem root s).mpr hs, rfl, rfl, rfl⟩
  · conv_lhs => rw [← List.zipIdx_map_fst 0 roots]
    rw [List.flatMap_map, List.map_flatMap]
    apply List.flatMap_congr
    intro r _
    rw [hfiles, List.map_map]
    rfl

lemma find?_eq_some_iff_of_pairwise {α : Type} {R : α → α → Prop} {as : List α} (has : as.Pairwise R)
    (hR : ∀ a b, R a b → ¬R b a) {p : α → Bool} {a : α} :
    as.find? p = some a ↔ a ∈ as ∧ p a = true ∧ ∀ b ∈ as, p b = true → b = a ∨ R a b := by
  induction as with
  | nil => simp
  | cons c as ih =>
    obtain ⟨hc, has⟩ := List.pairwise_cons.mp has
    by_cases hp : p c = true
    · rw [List.find?_cons_of_pos hp]
      constructor
      · rintro ⟨rfl⟩
        refine ⟨List.mem_cons_self, hp, ?_⟩
        intro b hb _
        rcases List.mem_cons.mp hb with rfl | hb
        · exact Or.inl rfl
        · exact Or.inr (hc b hb)
      · rintro ⟨ha, _, hfirst⟩
        rcases hfirst c List.mem_cons_self hp with rfl | hac
        · rfl
        · rcases List.mem_cons.mp ha with rfl | ha
          · rfl
          · exact (hR _ _ hac (hc a ha)).elim
    · rw [List.find?_cons_of_neg hp, ih has, List.forall_mem_cons]
      simp only [hp, List.mem_cons]
      constructor
      · rintro ⟨ha, hpa, hfirst⟩
        exact ⟨Or.inr ha, hpa, by simpa using hfirst⟩
      · rintro ⟨rfl | ha, hpa, hfirst⟩
        · exact (hp hpa).elim
        · exact ⟨ha, hpa, by simpa using hfirst⟩

lemma isIndex_firsts {meetings : List Meeting} (hordered : meetings.Pairwise Meeting.Before)
    (hmem : ∀ m, m ∈ meetings ↔ IsMet d roots excludedDirs m) :
    IsIndex d roots excludedDirs (Table.firsts Prod.fst (meetings.map Meeting.row)) := by
  have hindex : Table.firsts Prod.fst (meetings.map Meeting.row) =
      (Table.firsts Meeting.name meetings).map Meeting.row := Table.firsts_map Prod.fst Meeting.row meetings
  have hfirst : ∀ m, m ∈ Table.firsts Meeting.name meetings ↔ IsFirst d roots excludedDirs m := by
    intro m
    rw [Table.mem_firsts_iff, find?_eq_some_iff_of_pairwise hordered fun _ _ h => h.asymm]
    simp only [decide_eq_true_eq, hmem]
    exact ⟨fun ⟨hmet, _, h⟩ => ⟨hmet, h⟩, fun h => ⟨h.met, trivial, h.first⟩⟩
  refine ⟨?_, ?_, ?_⟩
  · intro name
    rw [Table.keys, Table.mem_map_firsts, List.map_map]
    simp only [List.mem_map, hmem]
    rfl
  · intro name path
    rw [lookup?, Table.find?_eq_some_iff (Table.nodup_map_firsts Prod.fst _), hindex]
    simp only [List.mem_map, hfirst, Meeting.row, Prod.mk.injEq]
  · exact ⟨_, hordered.sublist (Table.firsts_sublist _ _), hfirst, hindex⟩

end Meetings

section Build

variable {d d' : Disk}

lemma filesBelow_of_not_isDir {root : Text} (h : d.isDir root = false) (excluded : List Text) :
    filesBelow d excluded root = [] := by
  rw [Disk.isDir] at h
  rw [filesBelow]
  cases hnode : d.node? root with
  | none => rfl
  | some node =>
    cases node with
    | file bytes => rfl
    | dir members => simp [hnode] at h

lemma value_addRoot (excluded : List Text) (index : ProjectIndex) (root : Text) :
    (addRoot d excluded index root).value =
      (filesBelow d excluded root).foldl (fun t row => Table.putNew row.1 row.2 t) index := by
  rw [addRoot]
  split
  · rfl
  · rename_i hdir
    rw [filesBelow_of_not_isDir (by simpa using hdir)]
    rfl

lemma value_addRoots (excluded : List Text) (index : ProjectIndex) (roots : List Text) :
    (addRoots d excluded index roots).value =
      (roots.flatMap (filesBelow d excluded)).foldl (fun t row => Table.putNew row.1 row.2 t) index := by
  induction roots generalizing index with
  | nil => rfl
  | cons root roots ih =>
    rw [addRoots, Noted.value_bind, ih, value_addRoot, List.flatMap_cons, List.foldl_append]

lemma value_build (boundary : Path.Boundary) (excludedDirs : List Text) :
    (build d boundary excludedDirs).value = Table.firsts Prod.fst
      (boundary.roots.flatMap (filesBelow d (excludedPaths d excludedDirs))) := by
  rw [← Table.foldl_putNew, ← value_addRoots]
  rfl

lemma filesBelow_congr (h : d.IsSameTree d') (hd : d.root.HasDistinctNames)
    (hd' : d'.root.HasDistinctNames) (excluded : List Text) (root : Text) :
    filesBelow d' excluded root = filesBelow d excluded root := by
  cases hdir : d.isDir root with
  | false =>
    rw [filesBelow_of_not_isDir hdir, filesBelow_of_not_isDir (h.isDir_eq.trans hdir)]
  | true =>
    obtain ⟨hne, l, members, hwalk⟩ := Disk.walk_of_isDir hdir
    have hnode := Disk.node?_of_walk_dir hne hwalk
    obtain ⟨members', hnode', hsame⟩ := h.exists_dir hnode
    rw [filesBelow, filesBelow, hnode, hnode']
    exact (hsame.files_eq (Disk.hasDistinctNames_of_node? hd hnode)
      (Disk.hasDistinctNames_of_node? hd' hnode') _ _).symm

lemma build_congr (h : d.IsSameTree d') (hd : d.root.HasDistinctNames)
    (hd' : d'.root.HasDistinctNames) (boundary : Path.Boundary) (excludedDirs : List Text) :
    build d' boundary excludedDirs = build d boundary excludedDirs := by
  have hroot : addRoot d' = addRoot d := by
    funext excluded index root
    rw [addRoot, addRoot, h.isDir_eq, filesBelow_congr h hd hd']
  have hroots : ∀ excluded index roots,
      addRoots d' excluded index roots = addRoots d excluded index roots := by
    intro excluded index roots
    induction roots generalizing index with
    | nil => rfl
    | cons root roots ih => simp only [addRoots, hroot, ih]
  rw [build, build, h.cwd_eq]
  simp only [hroots]

/-- An index holds each name of a file that is met, with the first file of that name, in the order in which
these files are met; and it is the same, in whatever order directories list their members. -/
theorem build_isIndex (d : Disk) (hd : d.root.HasDistinctNames) (boundary : Path.Boundary)
    (excludedDirs : List Text) :
    IsIndex d boundary.roots excludedDirs (build d boundary excludedDirs).value ∧
      ∀ d' : Disk, d.IsSameTree d' → d'.root.HasDistinctNames →
        build d' boundary excludedDirs = build d boundary excludedDirs := by
  obtain ⟨meetings, hordered, hmem, hrows⟩ := exists_meetings hd boundary.roots excludedDirs
  refine ⟨?_, fun d' h hd' => build_congr h hd hd' boundary excludedDirs⟩
  rw [value_build, hrows]
  exact isIndex_firsts hordered hmem

def sampleMembers : Table Text Node :=
  [("b", .dir [("dup.cpp", .file [])]), ("main.ino", .file []),
    (".vscode", .dir [("only.cpp", .file [])]), ("build", .dir [("only.cpp", .file [])]),
    ("a", .dir [("dup.cpp", .file [])])]

def sampleDisk (members : Table Text Node) : Disk where
  root := .dir [("p", .dir members)]
  here := ["p"]

lemma hasDistinctNames_sample {members : Table Text Node} (h : members.Perm sampleMembers) :
    (sampleDisk members).root.HasDistinctNames := by
  have hone : ∀ (name : Text) (n : Node), n.HasDistinctNames →
      Node.HasDistinctNames (.dir [(name, n)]) := by
    intro name n hn
    exact Node.hasDistinctNames_dir (List.nodup_singleton name) (by simpa using hn)
  have hfile := fun name => hone name (.file []) (Node.hasDistinctNames_file [])
  apply hone
  apply Node.hasDistinctNames_dir
  · exact (h.map Prod.fst).nodup_iff.mpr (by decide)
  · intro m hm
    have hmem := h.mem_iff.mp hm
    simp only [sampleMembers, List.mem_cons, List.not_mem_nil, or_false] at hmem
    rcases hmem with rfl | rfl | rfl | rfl | rfl
    · exact hfile _
    · exact Node.hasDistinctNames_file []
    · exact hfile _
    · exact hfile _
    · exact hfile _

lemma files_singleton (e : Text → Text → Bool) (path name : Text) :
    Node.files e path (.dir [(name, .file [])]) = [(name, Path.join path name)] := by
  simp [Node.files, Node.fileNames, Node.subdirectories, Node.sortByName]

lemma filesBelow_sample : filesBelow (sampleDisk sampleMembers) ["/p/build"] "/p" =
    ([("main.ino", "/p/main.ino"), ("dup.cpp", "/p/a/dup.cpp"), ("dup.cpp", "/p/b/dup.cpp")] :
      List (Text × Text)) := by
  have hnode : (sampleDisk sampleMembers).node? "/p" = some (.dir sampleMembers) := rfl
  have hnames : Node.sortByName ((Node.fileNames sampleMembers).map fun a => (a, Path.join "/p" a)) =
      ([("main.ino", "/p/main.ino")] : List (Text × Text)) :=
    Node.sortByName_eq (.refl _) (List.pairwise_singleton _ _)
  have hdirs : Node.visitedDirs (enters ["/p/build"]) "/p" sampleMembers =
      ([("b", .dir [("dup.cpp", .file [])]), ("a", .dir [("dup.cpp", .file [])])] : Table Text Node) := rfl
  have hsorted : ∀ files files' : List (Text × Text),
      Node.sortByName ([("b", files), ("a", files')] : List (Text × List (Text × Text))) =
        ([("a", files'), ("b", files)] : List (Text × List (Text × Text))) := by
    intro files files'
    exact Node.sortByName_eq (.swap _ _ _) (List.pairwise_pair.mpr (.rel (by decide)))
  rw [filesBelow, hnode]
  dsimp only
  rw [Node.files, hnames, Node.subdirectories_eq, hdirs, List.map_cons, List.map_cons, List.map_nil,
    hsorted, files_singleton, files_singleton]
  decide

lemma value_build_sample :
    (build (sampleDisk sampleMembers) ⟨["/p", "/p/b", "/none"]⟩ ["build"]).value =
      ([("main.ino", "/p/main.ino"), ("dup.cpp", "/p/a/dup.cpp")] : ProjectIndex) := by
  have hexcluded : excludedPaths (sampleDisk sampleMembers) ["build"] = (["/p/build"] : List Text) := by
    decide
  have hnested : filesBelow (sampleDisk sampleMembers) ["/p/build"] "/p/b" =
      ([("dup.cpp", "/p/b/dup.cpp")] : List (Text × Text)) := files_singleton _ _ _
  have hnone : filesBelow (sampleDisk sampleMembers) ["/p/build"] "/none" = [] := rfl
  rw [value_build, hexcluded, List.flatMap_cons, List.flatMap_cons, List.flatMap_cons, filesBelow_sample,
    hnested, hnone]
  decide

theorem build_isIndex_sample :
    (sampleDisk sampleMembers).root.HasDistinctNames ∧
      (sampleDisk sampleMembers.reverse).root.HasDistinctNames ∧
      (sampleDisk sampleMembers).IsSameTree (sampleDisk sampleMembers.reverse) ∧
      IsIndex (sampleDisk sampleMembers) ["/p", "/p/b", "/none"] ["build"]
        [("main.ino", "/p/main.ino"), ("dup.cpp", "/p/a/dup.cpp")] ∧
      build (sampleDisk sampleMembers.reverse) ⟨["/p", "/p/b", "/none"]⟩ ["build"] =
        build (sampleDisk sampleMembers) ⟨["/p", "/p/b", "/none"]⟩ ["build"] := by
  have hnames := hasDistinctNames_sample (.refl sampleMembers)
  have hnames' := hasDistinctNames_sample sampleMembers.reverse_perm
  have hsame : (sampleDisk sampleMembers).IsSameTree (sampleDisk sampleMembers.reverse) := by
    refine ⟨rfl, Node.isSameTree_modify (l := ["p"]) (f := List.reverse) rfl (by decide) ?_⟩
    exact List.reverse_perm sampleMembers
  obtain ⟨hindex, hbuild⟩ :=
    build_isIndex (sampleDisk sampleMembers) hnames ⟨["/p", "/p/b", "/none"]⟩ ["build"]
  rw [value_build_sample] at hindex
  exact ⟨hnames, hnames', hsame, hindex, hbuild _ hsame hnames'⟩

end Build

end SketchBuild.ProjectIndex
