import Mathlib.Data.List.Sort
import SketchBuild.Disk.Walk
import SketchBuild.Proofs.Disk.Frame
import SketchBuild.Proofs.Text.Order

namespace SketchBuild

namespace Node

@[elab_as_elim]
lemma induct {motive : Node → Prop} (file : ∀ bytes, motive (.file bytes))
    (dir : ∀ members : List (Text × Node), (∀ m ∈ members, motive m.2) → motive (.dir members))
    (n : Node) : motive n := by
  refine @Node.rec motive (fun members => ∀ m ∈ members, motive m.2) (fun m => motive m.2)
    file dir ?_ ?_ ?_ n
  · simp
  · intro m members hm hmembers
    exact List.forall_mem_cons.mpr ⟨hm, hmembers⟩
  · exact fun _ _ h => h

/-- Where a file stands below a directory: the directories on the way, the outermost first, and its name. -/
structure Spot where
  dirs : List Text
  name : Text

namespace Spot

def dirPath (top : Text) (dirs : List Text) : Text := dirs.foldl Path.join top

def path (top : Text) (s : Spot) : Text := Path.join (dirPath top s.dirs) s.name

def within (dir : Text) (s : Spot) : Spot := { s with dirs := dir :: s.dirs }

/-- The order in which files are met: a file before those in subdirectories, and files and subdirectories
by name. -/
inductive Before : Spot → Spot → Prop
  | name {a b : Text} (h : a.Precedes b) : Before ⟨[], a⟩ ⟨[], b⟩
  | file {a b e : Text} {es : List Text} : Before ⟨[], a⟩ ⟨e :: es, b⟩
  | dir {a b d e : Text} {ds es : List Text} (h : d.Precedes e) : Before ⟨d :: ds, a⟩ ⟨e :: es, b⟩
  | inside {a b d : Text} {ds es : List Text} (h : Before ⟨ds, a⟩ ⟨es, b⟩) :
      Before ⟨d :: ds, a⟩ ⟨d :: es, b⟩

lemma Before.asymm {s t : Spot} (h : Before s t) : ¬Before t s := by
  induction h with
  | name h =>
    rintro ⟨h'⟩
    exact h.asymm h'
  | file => rintro ⟨⟩
  | dir h =>
    rintro (_ | _ | h' | _)
    · exact h.asymm h'
    · exact h.asymm h
  | inside _ ih =>
    rintro (_ | _ | h' | h')
    · exact h'.asymm h'
    · exact ih h'

def inTurn {α : Type} (names : List Text) (dirs : List (Text × α)) (below : Text × α → List Spot) :
    List Spot :=
  names.map (⟨[], ·⟩) ++ dirs.flatMap fun m => (below m).map (within m.1)

section InTurn

variable {α : Type} {names : List Text} {dirs : List (Text × α)} {below : Text × α → List Spot}

lemma mem_inTurn_name {a : Text} : ⟨[], a⟩ ∈ inTurn names dirs below ↔ a ∈ names := by
  simp [inTurn, within]

lemma mem_inTurn_within {a : Text} {s : Spot} :
    s.within a ∈ inTurn names dirs below ↔ ∃ m ∈ dirs, m.1 = a ∧ s ∈ below m := by
  obtain ⟨ds, b⟩ := s
  simp only [inTurn, within, List.mem_append, List.mem_map, List.mem_flatMap, Spot.mk.injEq]
  constructor
  · rintro (⟨_, _, h, _⟩ | ⟨m, hm, ⟨es, e⟩, hs, h, rfl⟩)
    · simp at h
    · obtain ⟨rfl, rfl⟩ := List.cons.inj h
      exact ⟨m, hm, rfl, hs⟩
  · rintro ⟨m, hm, rfl, hs⟩
    exact Or.inr ⟨m, hm, ⟨ds, b⟩, hs, rfl, rfl⟩

lemma pairwise_inTurn (hnames : names.Pairwise Text.Precedes)
    (hdirs : dirs.Pairwise fun a b => a.1.Precedes b.1)
    (hbelow : ∀ m ∈ dirs, (below m).Pairwise Before) : (inTurn names dirs below).Pairwise Before := by
  apply List.pairwise_append.mpr
  refine ⟨List.pairwise_map.mpr (hnames.imp Before.name), List.pairwise_flatMap.mpr ⟨?_, ?_⟩, ?_⟩
  · intro m hm
    exact List.pairwise_map.mpr ((hbelow m hm).imp Before.inside)
  · apply hdirs.imp
    intro m m' hlt s hs s' hs'
    obtain ⟨t, _, rfl⟩ := List.mem_map.mp hs
    obtain ⟨t', _, rfl⟩ := List.mem_map.mp hs'
    exact Before.dir hlt
  · intro s hs s' hs'
    obtain ⟨a, _, rfl⟩ := List.mem_map.mp hs
    obtain ⟨m, _, hm⟩ := List.mem_flatMap.mp hs'
    obtain ⟨t, _, rfl⟩ := List.mem_map.mp hm
    exact Before.file

end InTurn

end Spot

def HasDistinctNames (n : Node) : Prop :=
  ∀ l members, n.find? l = some (.dir members) → (Table.keys members).Nodup

structure IsListed (visited : Text → Text → Prop) (top : Text) (n : Node) (s : Spot) : Prop where
  file : ∃ bytes, n.find? (s.dirs ++ [s.name]) = some (.file bytes)
  visited : ∀ above dir below, s.dirs = above ++ dir :: below → visited (Spot.dirPath top above) dir

section Listed

variable {visited : Text → Text → Prop} {top : Text}

lemma not_isListed_file {bytes : List UInt8} {s : Spot} : ¬IsListed visited top (.file bytes) s := by
  rintro ⟨⟨_, hfile⟩, _⟩
  have hnone := find?_below_file (n := .file bytes) (l := []) rfl (r := s.dirs ++ [s.name]) (by simp)
  rw [List.nil_append, hfile] at hnone
  simp at hnone

lemma IsListed.hasDir {n : Node} {s : Spot} (h : IsListed visited top n s) : n.HasDir [] := by
  cases n with
  | file bytes => exact (not_isListed_file h).elim
  | dir members => exact ⟨members, rfl⟩

variable {members : List (Text × Node)}

lemma isListed_name {a : Text} : IsListed visited top (.dir members) ⟨[], a⟩ ↔
    ∃ bytes, Table.find? a members = some (.file bytes) := by
  constructor
  · rintro ⟨⟨bytes, hfile⟩, _⟩
    refine ⟨bytes, ?_⟩
    rwa [List.nil_append, ← List.nil_append [a], find?_concat rfl] at hfile
  · rintro ⟨bytes, hfile⟩
    refine ⟨⟨bytes, ?_⟩, by simp⟩
    rw [List.nil_append, ← List.nil_append [a], find?_concat rfl, hfile]

lemma isListed_within {a : Text} {s : Spot} :
    IsListed visited top (.dir members) (s.within a) ↔
      visited top a ∧ ∃ n, Table.find? a members = some n ∧ IsListed visited (Path.join top a) n s := by
  constructor
  · rintro ⟨⟨bytes, hfile⟩, hvisited⟩
    obtain ⟨n, hn, hbelow⟩ := Option.bind_eq_some_iff.mp hfile
    refine ⟨hvisited [] a s.dirs rfl, n, hn, ⟨bytes, hbelow⟩, ?_⟩
    intro above dir below hdirs
    exact hvisited (a :: above) dir below (congrArg (a :: ·) hdirs)
  · rintro ⟨ha, n, hn, ⟨bytes, hfile⟩, hvisited⟩
    refine ⟨⟨bytes, Option.bind_eq_some_iff.mpr ⟨n, hn, hfile⟩⟩, ?_⟩
    intro above dir below hdirs
    cases above with
    | nil =>
      obtain ⟨rfl, _⟩ := List.cons.inj hdirs
      exact ha
    | cons b above =>
      obtain ⟨rfl, hrest⟩ := List.cons.inj hdirs
      exact hvisited above dir below hrest

end Listed

section Sorted

variable {α β : Type} {rows : List (Text × α)}

lemma sortByName_perm (rows : List (Text × α)) : (sortByName rows).Perm rows := List.mergeSort_perm _ _

lemma sortByName_map (f : Text × α → Text × β) (hf : ∀ row, (f row).1 = row.1) :
    sortByName (rows.map f) = (sortByName rows).map f := by
  rw [sortByName, sortByName, List.map_mergeSort]
  intro a _ b _
  rw [hf, hf]

lemma pairwise_sortByName (h : (Table.keys rows).Nodup) :
    (sortByName rows).Pairwise fun a b => a.1.Precedes b.1 := by
  have hle : (sortByName rows).Pairwise fun a b => Text.isUpTo a.1 b.1 = true := by
    apply List.pairwise_mergeSort
    · exact fun a b c => Text.isUpTo_trans
    · intro a b
      rw [Bool.or_eq_true]
      exact Text.isUpTo_total a.1 b.1
  have hne : (sortByName rows).Pairwise fun a b => a.1 ≠ b.1 := by
    apply List.pairwise_map.mp
    exact ((sortByName_perm rows).map Prod.fst).nodup_iff.mpr h
  refine (hle.and hne).imp ?_
  rintro a b ⟨hab, hneq⟩
  exact ((Text.isUpTo_iff a.1 b.1).mp hab).resolve_left hneq

lemma sortByName_eq {sorted : List (Text × α)} (hperm : sorted.Perm rows)
    (hsorted : sorted.Pairwise fun a b => a.1.Precedes b.1) : sortByName rows = sorted := by
  have hnodup : (Table.keys sorted).Nodup := by
    apply List.pairwise_map.mpr
    apply hsorted.imp
    intro a b hab heq
    rw [heq] at hab
    exact hab.asymm hab
  have hrows := pairwise_sortByName ((hperm.map Prod.fst).nodup_iff.mp hnodup)
  apply List.Perm.eq_of_pairwise _ hrows hsorted ((sortByName_perm rows).trans hperm.symm)
  intro a b _ _ hab hba
  exact (hab.asymm hba).elim

end Sorted

section Files

variable (enters : Text → Text → Bool) {members : List (Text × Node)}

def visitedDirs (top : Text) (members : List (Text × Node)) : List (Text × Node) :=
  members.filter fun m => match m.2 with
    | .file _ => false
    | .dir _ => enters top m.1

lemma subdirectories_eq (top : Text) (members : List (Text × Node)) :
    subdirectories enters top members =
      (visitedDirs enters top members).map fun m => (m.1, files enters (Path.join top m.1) m.2) := by
  induction members with
  | nil => rfl
  | cons m members ih =>
    obtain ⟨name, n⟩ := m
    cases n with
    | file bytes => exact ih
    | dir inner =>
      rw [subdirectories, visitedDirs, List.filter_cons, ih, visitedDirs]
      dsimp only
      split
      · rfl
      · rfl

lemma mem_visitedDirs {top : Text} {m : Text × Node} :
    m ∈ visitedDirs enters top members ↔ m ∈ members ∧ m.2.HasDir [] ∧ enters top m.1 = true := by
  obtain ⟨name, n⟩ := m
  rw [visitedDirs, List.mem_filter]
  cases n with
  | file bytes => simp [hasDir_file]
  | dir inner => simp [HasDir, find?]

lemma mem_fileNames {a : Text} : a ∈ fileNames members ↔ ∃ bytes, (a, Node.file bytes) ∈ members := by
  induction members with
  | nil => simp [fileNames]
  | cons m members ih =>
    obtain ⟨name, n⟩ := m
    cases n with
    | file bytes =>
      rw [fileNames, List.mem_cons, ih]
      constructor
      · rintro (rfl | ⟨content, h⟩)
        · exact ⟨bytes, List.mem_cons_self⟩
        · exact ⟨content, List.mem_cons_of_mem _ h⟩
      · rintro ⟨content, h⟩
        rcases List.mem_cons.mp h with h | h
        · exact Or.inl (Prod.mk.inj h).1
        · exact Or.inr ⟨content, h⟩
    | dir inner => simp [fileNames, ih]

lemma fileNames_sublist (members : List (Text × Node)) :
    (fileNames members).Sublist (Table.keys members) := by
  induction members with
  | nil => exact List.Sublist.slnil
  | cons m members ih =>
    obtain ⟨name, n⟩ := m
    cases n with
    | file bytes => exact ih.cons_cons name
    | dir inner => exact ih.cons name

/-- Spots below a node in the order in which they are met, each that is listed once. -/
structure IsPreorder (visited : Text → Text → Prop) (top : Text) (n : Node) (spots : List Spot) :
    Prop where
  ordered : spots.Pairwise Spot.Before
  mem : ∀ s, s ∈ spots ↔ IsListed visited top n s

lemma IsPreorder.unique {visited : Text → Text → Prop} {top : Text} {n : Node} {spots spots' : List Spot}
    (h : IsPreorder visited top n spots) (h' : IsPreorder visited top n spots') : spots = spots' := by
  have hnodup : ∀ {l : List Spot}, l.Pairwise Spot.Before → l.Nodup := by
    intro l hl
    refine hl.imp ?_
    rintro s _ hs rfl
    exact hs.asymm hs
  apply List.Perm.eq_of_pairwise _ h.ordered h'.ordered
  · apply (List.perm_ext_iff_of_nodup (hnodup h.ordered) (hnodup h'.ordered)).mpr
    intro s
    rw [h.mem, h'.mem]
  · intro s s' _ _ hs hs'
    exact (hs.asymm hs').elim

lemma HasDistinctNames.below {n c : Node} (h : HasDistinctNames n) {l : List Text}
    (hc : n.find? l = some c) : HasDistinctNames c := by
  intro r inner hr
  apply h (l ++ r) inner
  rw [find?_append, hc]
  exact hr

lemma hasDistinctNames_file (bytes : List UInt8) : HasDistinctNames (.file bytes) := by
  intro l members h
  exact (hasDir_file ⟨members, h⟩).elim

lemma hasDistinctNames_dir (hnodup : (Table.keys members).Nodup)
    (h : ∀ m ∈ members, HasDistinctNames m.2) : HasDistinctNames (.dir members) := by
  rintro (_ | ⟨a, l⟩) inner hl
  · obtain rfl := Node.dir.inj (Option.some.inj hl)
    exact hnodup
  · obtain ⟨n, hn, hbelow⟩ := Option.bind_eq_some_iff.mp hl
    exact h (a, n) ((Table.find?_eq_some_iff hnodup).mp hn) l inner hbelow

def Spot.row (top : Text) (s : Spot) : Text × Text := (s.name, s.path top)

lemma exists_names (h : (Table.keys members).Nodup) (top : Text) :
    ∃ names : List Text, names.Pairwise Text.Precedes ∧
      (∀ a, a ∈ names ↔ ∃ bytes, Table.find? a members = some (.file bytes)) ∧
      sortByName ((fileNames members).map fun a => (a, Path.join top a)) =
        names.map fun a => Spot.row top ⟨[], a⟩ := by
  let rows := (fileNames members).map fun a => (a, Path.join top a)
  have hkeys : Table.keys rows = fileNames members := by
    rw [Table.keys, List.map_map]
    exact List.map_id _
  refine ⟨(sortByName rows).map Prod.fst, ?_, ?_, ?_⟩
  · apply List.pairwise_map.mpr
    apply pairwise_sortByName
    rw [hkeys]
    exact h.sublist (fileNames_sublist members)
  · intro a
    rw [((sortByName_perm rows).map Prod.fst).mem_iff, ← Table.keys, hkeys, mem_fileNames]
    simp only [Table.find?_eq_some_iff h]
  · rw [List.map_map]
    refine (List.map_id _).symm.trans (List.map_congr_left ?_)
    intro row hrow
    obtain ⟨a, _, rfl⟩ := List.mem_map.mp ((sortByName_perm rows).mem_iff.mp hrow)
    rfl

lemma exists_dirs (h : (Table.keys members).Nodup) (top : Text) :
    ∃ dirs : List (Text × Node), dirs.Pairwise (fun a b => a.1.Precedes b.1) ∧
      (∀ m, m ∈ dirs ↔ Table.find? m.1 members = some m.2 ∧ m.2.HasDir [] ∧ enters top m.1 = true) ∧
      sortByName (subdirectories enters top members) =
        dirs.map fun m => (m.1, files enters (Path.join top m.1) m.2) := by
  refine ⟨sortByName (visitedDirs enters top members), ?_, ?_, ?_⟩
  · apply pairwise_sortByName
    exact h.sublist (List.filter_sublist.map Prod.fst)
  · intro m
    rw [(sortByName_perm _).mem_iff, mem_visitedDirs, Table.find?_eq_some_iff h]
  · rw [subdirectories_eq]
    exact sortByName_map _ fun _ => rfl

theorem exists_isPreorder {n : Node} (h : HasDistinctNames n) (top : Text) :
    ∃ spots, n.files enters top = spots.map (Spot.row top) ∧
      IsPreorder (fun dir name => enters dir name = true) top n spots := by
  -- Below a member the path is its own one, so `top` has to stay free in the induction.
  induction n using induct generalizing top with
  | file bytes => exact ⟨[], rfl, List.Pairwise.nil, fun s => by simp [not_isListed_file]⟩
  | dir members ih =>
    have hnodup := h [] members rfl
    obtain ⟨names, hnames, hmem, hrows⟩ := exists_names hnodup top
    obtain ⟨dirs, hdirs, hvisited, hrows'⟩ := exists_dirs enters hnodup top
    have hbelow : ∀ m ∈ dirs, ∃ spots, m.2.files enters (Path.join top m.1) =
        spots.map (Spot.row (Path.join top m.1)) ∧
        IsPreorder (fun dir name => enters dir name = true) (Path.join top m.1) m.2 spots := by
      intro m hm
      have hfind := ((hvisited m).mp hm).1
      have hbelow : HasDistinctNames m.2 := by
        apply h.below (l := [m.1])
        rw [find?, member?, hfind]
        rfl
      exact ih m ((Table.find?_eq_some_iff hnodup).mp hfind) hbelow _
    choose! below hfiles hpreorder using hbelow
    refine ⟨Spot.inTurn names dirs below, ?_, ?_, ?_⟩
    · rw [files, hrows, hrows', List.flatMap_map, Spot.inTurn, List.map_append, List.map_map,
        List.map_flatMap]
      congr 1
      apply List.flatMap_congr
      intro m hm
      rw [hfiles m hm, List.map_map]
      rfl
    · exact Spot.pairwise_inTurn hnames hdirs fun m hm => (hpreorder m hm).ordered
    · rintro ⟨_ | ⟨d, ds⟩, a⟩
      · rw [Spot.mem_inTurn_name, isListed_name, hmem]
      · change Spot.within d ⟨ds, a⟩ ∈ _ ↔ IsListed _ _ _ (Spot.within d ⟨ds, a⟩)
        rw [Spot.mem_inTurn_within, isListed_within]
        constructor
        · rintro ⟨m, hm, rfl, hs⟩
          obtain ⟨hfind, _, henters⟩ := (hvisited m).mp hm
          exact ⟨henters, m.2, hfind, ((hpreorder m hm).mem _).mp hs⟩
        · rintro ⟨henters, n, hfind, hs⟩
          have hm := (hvisited (d, n)).mpr ⟨hfind, hs.hasDir, henters⟩
          exact ⟨(d, n), hm, rfl, ((hpreorder _ hm).mem _).mpr hs⟩

end Files

end Node

end SketchBuild
