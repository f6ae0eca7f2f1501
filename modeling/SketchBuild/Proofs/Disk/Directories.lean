import SketchBuild.Proofs.Disk.Destination
import SketchBuild.Proofs.Path.Plain

/-! Directories are made from the outermost missing one on. An attempt that fails leaves the disk as
it was, and what blocks it is a file on the way. -/

namespace SketchBuild.Disk

open SketchBuild.Path (baseName parent IsName spell)

variable {d d' : Disk} {path : Text}

section Present

lemma node?_of_walk_dir (hp : path ≠ []) {l : List Text} {members : List (Text × Node)}
    (h : walk d (origin d path) (steps path) = .ok (.taken l (.dir members))) :
    d.node? path = some (.dir members) := by
  rw [node?, place, if_neg hp, h]

lemma walk_of_isDir (h : d.isDir path = true) :
    path ≠ [] ∧ ∃ l members, walk d (origin d path) (steps path) = .ok (.taken l (.dir members)) := by
  rw [isDir, node?] at h
  cases hp : d.place path with
  | error cause => simp [hp] at h
  | ok p =>
    obtain ⟨hne, hwalk, _⟩ := walk_of_place hp
    cases p with
    | free dir name => simp [hp] at h
    | taken l node =>
      cases node with
      | file bytes => simp [hp] at h
      | dir members => exact ⟨hne, l, members, hwalk⟩

lemma steps_parent_of_nil (h : baseName path = []) : steps path = steps (parent path) := by
  rcases Path.split_cases path with ⟨hp, hdir⟩ | ⟨n, hp, hdir⟩ | ⟨s, c, n, _, hp, hdir⟩
  · rw [hdir, hp, h]
  · rw [h, List.append_nil] at hp
    rw [hdir, ← hp]
  · have hslashes : steps (List.replicate n '/') = [] := by
      have hnil := steps_slashes n []
      rwa [List.append_nil] at hnil
    rw [h, List.append_nil] at hp
    conv_lhs => rw [hp]
    rw [hdir, steps_separated, hslashes, List.append_nil]

lemma exists?_parent_of_walk_dir (hname : baseName path ≠ []) (hhead : parent path ≠ []) {l : List Text}
    {members : List (Text × Node)}
    (h : walk d (origin d path) (steps path) = .ok (.taken l (.dir members))) :
    d.exists? (parent path) = true := by
  rw [steps_parent hname] at h
  obtain ⟨k, ms, hk, _⟩ := exists_of_walk_append h (by simp)
  rw [← origin_parent hhead] at hk
  rw [exists?, node?_of_walk_dir hhead hk]
  rfl

lemma exists?_lastSplit (h : d.isDir path = true) (hhead : (lastSplit path).1 ≠ [])
    (htail : (lastSplit path).2 ≠ []) : d.exists? (lastSplit path).1 = true := by
  obtain ⟨hne, l, members, hwalk⟩ := walk_of_isDir h
  by_cases hname : baseName path = []
  · simp only [lastSplit, hname, if_true] at hhead htail ⊢
    have hparent : parent path ≠ [] := by
      intro hnil
      rw [hnil] at hhead
      exact hhead rfl
    rw [steps_parent_of_nil hname, ← origin_parent hparent] at hwalk
    exact exists?_parent_of_walk_dir htail hhead hwalk
  · simp only [lastSplit, hname, if_false] at hhead htail ⊢
    exact exists?_parent_of_walk_dir htail hhead hwalk

lemma ensureDir_of_isDir (h : d.isDir path = true) : d.ensureDir path = (d, .ok ()) := by
  obtain ⟨hne, l, members, hwalk⟩ := walk_of_isDir h
  rw [ensureDir, makeDir, if_neg hne, hwalk]
  dsimp only
  rw [if_pos h]

lemma makeDirs_of_isDir (h : d.isDir path = true) : d.makeDirs path = (d, .ok ()) := by
  rw [makeDirs]
  cases path.length with
  | zero => exact ensureDir_of_isDir h
  | succ n =>
    have hpresent : ((lastSplit path).1 = [] || (lastSplit path).2 = [] ||
        d.exists? (lastSplit path).1) = true := by
      by_cases hhead : (lastSplit path).1 = []
      · simp [hhead]
      · by_cases htail : (lastSplit path).2 = []
        · simp [htail]
        · simp [exists?_lastSplit h hhead htail]
    rw [makeDirsWithin]
    dsimp only
    rw [if_pos hpresent]
    exact ensureDir_of_isDir h

end Present

structure Makes (d d' : Disk) (l : List Text) : Prop where
  here : d'.here = d.here
  hasDir : d'.root.HasDir l
  above : ∀ k, k <+: l → d.root.find? k = none ∨ d.root.HasDir k
  others : ∀ k, ¬k <+: l → d'.root.find? k = d.root.find? k

section Makes

variable {l : List Text} {e : Text}

lemma makes_self (h : d.root.HasDir l) : Makes d d l :=
  ⟨rfl, h, fun _ hk => Or.inr (h.of_prefix hk), fun _ _ => rfl⟩

lemma makes_setMember (h : d.root.HasDir l) (hn : d.root.find? (l ++ [e]) = none) :
    Makes d (d.setMember l e (.dir [])) (l ++ [e]) := by
  refine ⟨rfl, ⟨[], find?_setMember h e _⟩, ?_, ?_⟩
  · intro k hk
    rcases List.prefix_concat_iff.mp hk with rfl | hk
    · exact Or.inl hn
    · exact Or.inr (h.of_prefix hk)
  · intro k hk
    have hl : ¬k <+: l := fun hkl => hk (hkl.trans (List.prefix_append l [e]))
    by_cases hbelow : l ++ [e] <+: k
    · obtain ⟨r, rfl⟩ := hbelow
      have hr : r ≠ [] := by
        rintro rfl
        exact hk (by simp)
      rw [Node.find?_append, find?_setMember h, Node.find?_eq_none_of_append hn]
      cases r with
      | nil => exact (hr rfl).elim
      | cons a r => rfl
    · exact find?_setMember_other hl hbelow

lemma Makes.keepsDirs (h : Makes d d' l) : KeepsDirs d d' := by
  intro k hk
  by_cases hkl : k <+: l
  · exact h.hasDir.of_prefix hkl
  · obtain ⟨members, hm⟩ := hk
    exact ⟨members, (h.others k hkl).trans hm⟩

lemma Makes.find?_concat (h : Makes d d' l) : d'.root.find? (l ++ [e]) = d.root.find? (l ++ [e]) := by
  apply h.others
  exact fun hk => absurd hk.length_le (by simp)

lemma Makes.concat {d'' : Disk} (h : Makes d d' l) (h' : Makes d' d'' (l ++ [e])) :
    Makes d d'' (l ++ [e]) := by
  refine ⟨h'.here.trans h.here, h'.hasDir, ?_, ?_⟩
  · intro k hk
    rcases List.prefix_concat_iff.mp hk with rfl | hkl
    · have habove := h'.above _ List.prefix_rfl
      rwa [Node.HasDir, h.find?_concat, ← Node.HasDir] at habove
    · exact h.above k hkl
  · intro k hk
    have hkl : ¬k <+: l := fun hkl => hk (hkl.trans (List.prefix_append l [e]))
    rw [h'.others k hk, h.others k hkl]

end Makes

section Spell

def base (d : Disk) (r : Nat) : List Text := if r = 0 then d.here else []

variable {r : Nat} {cs ds : List Text} {e : Text}

lemma origin_spell (hr : r ≤ 1) (hcs : ∀ x ∈ cs, IsName x) : origin d (spell r cs) = d.base r := by
  obtain rfl | rfl : r = 0 ∨ r = 1 := by omega
  · rw [origin, if_neg (Path.head_spell_zero hcs)]
    rfl
  · rw [origin, if_pos (Path.head_spell (Or.inl rfl) cs)]
    rfl

lemma steps_spell (hcs : ∀ x ∈ cs, IsName x) : steps (spell r cs) = cs := by
  rw [spell, steps_slashes, steps]
  cases cs with
  | nil => rfl
  | cons c cs =>
    rw [Path.pieces_intercalate '/' _ (by simp) fun x hx => (hcs x hx).no_slash]
    exact List.filter_eq_self.mpr fun x hx => by simpa using (hcs x hx).ne_nil

lemma location_of_walk_names {l : List Text} {p : Place} (hcs : ∀ x ∈ cs, IsName x)
    (h : walk d l cs = .ok p) : p.location = l ++ cs := by
  induction cs generalizing l with
  | nil => rw [location_of_walk_nil h, List.append_nil]
  | cons c cs ih =>
    have hc := hcs c (by simp)
    obtain ⟨members, hm⟩ := hasDir_of_walk_cons h
    rw [walk_cons hm, if_neg hc.ne_dot, if_neg hc.ne_dots] at h
    split at h
    · rename_i hfree
      simp only [Bool.and_eq_true, decide_eq_true_eq] at hfree
      obtain rfl := Except.ok.inj h
      rw [hfree.1, Place.location]
    · rw [ih (fun x hx => hcs x (by simp [hx])) h, List.append_assoc, List.singleton_append]

lemma walk_names {l : List Text} {node : Node} (hcs : ∀ x ∈ cs, IsName x)
    (h : d.root.find? (l ++ cs) = some node) : walk d l cs = .ok (.taken (l ++ cs) node) := by
  induction cs generalizing l with
  | nil =>
    rw [List.append_nil] at h ⊢
    rw [walk_nil, h]
  | cons c cs ih =>
    have hc := hcs c (by simp)
    rw [← List.singleton_append, ← List.append_assoc] at h ⊢
    have hsome : ∃ n, d.root.find? (l ++ [c]) = some n := by
      rw [Node.find?_append] at h
      obtain ⟨n, hn, _⟩ := Option.bind_eq_some_iff.mp h
      exact ⟨n, hn⟩
    obtain ⟨n, hn⟩ := hsome
    obtain ⟨members, hm, hmember⟩ := Node.exists_dir_of_concat hn
    rw [List.singleton_append, walk_cons hm, if_neg hc.ne_dot, if_neg hc.ne_dots, hmember,
      Option.isNone_some, Bool.and_false, if_neg (by simp)]
    exact ih (fun x hx => hcs x (by simp [hx])) h

lemma leadsInto_spell (hr : r ≤ 1) (hds : ∀ x ∈ ds, IsName x) (he : IsName e)
    (h : d.root.HasDir (d.base r ++ ds)) : LeadsInto d (spell r (ds ++ [e])) (d.base r ++ ds) := by
  obtain ⟨members, hm⟩ := h
  have hnames := Path.forall_isName_concat hds he
  refine ⟨members, ?_⟩
  rw [origin_spell hr hnames, Path.parent_spell r hds he, steps_spell hds]
  exact walk_names hds hm

lemma hasDir_of_walk_spell (hds : ∀ x ∈ ds, IsName x) {l : List Text} {p : Place}
    (h : walk d l (ds ++ [e]) = .ok p) : d.root.HasDir (l ++ ds) := by
  obtain ⟨k, members, hk, _⟩ := exists_of_walk_append h (by simp)
  have hloc : k = l ++ ds := location_of_walk_names hds hk
  exact ⟨members, hloc ▸ isOn_of_walk hk⟩

lemma isDir_spell (hr : r ≤ 1) (hcs : ∀ x ∈ cs, IsName x) (hne : spell r cs ≠ [])
    (h : d.root.HasDir (d.base r ++ cs)) : d.isDir (spell r cs) = true := by
  obtain ⟨members, hm⟩ := h
  have hwalk : walk d (origin d (spell r cs)) (steps (spell r cs)) =
      .ok (.taken (d.base r ++ cs) (.dir members)) := by
    rw [origin_spell hr hcs, steps_spell hcs]
    exact walk_names hcs hm
  rw [isDir, node?_of_walk_dir hne hwalk]

/-- Something is in the way of a directory: a file, or there is nothing to start from. -/
def IsBlocked (d : Disk) (r : Nat) (cs : List Text) : Prop :=
  ¬d.root.HasDir (d.base r) ∨ ∃ k bytes, k <+: d.base r ++ cs ∧ d.root.find? k = some (.file bytes)

lemma IsBlocked.concat (h : IsBlocked d r ds) (e : Text) : IsBlocked d r (ds ++ [e]) := by
  rcases h with h | ⟨k, bytes, hk, hfile⟩
  · exact Or.inl h
  · refine Or.inr ⟨k, bytes, hk.trans ?_, hfile⟩
    rw [← List.append_assoc]
    exact List.prefix_append _ _

def IsAttempt (d : Disk) (r : Nat) (cs : List Text) : Disk × Except Error Unit → Prop
  | (d', .ok ()) => Makes d d' (d.base r ++ cs)
  | (d', .error _) => d' = d ∧ IsBlocked d r cs

variable (hr : r ≤ 1) (hds : ∀ x ∈ ds, IsName x) (he : IsName e)

include hr hds he

lemma ensureDir_of_none (h : d.root.HasDir (d.base r ++ ds))
    (hn : d.root.find? (d.base r ++ ds ++ [e]) = none) :
    d.ensureDir (spell r (ds ++ [e])) = (d.setMember (d.base r ++ ds) e (.dir []), .ok ()) := by
  have hname : baseName (spell r (ds ++ [e])) = e := Path.baseName_spell r ds he
  have hbase := Path.isName_baseName_spell r ds he
  have hwalk := (leadsInto_spell hr hds he h).walk_eq hbase
  rw [hname, placeIn, hn] at hwalk
  rw [ensureDir, makeDir, if_neg (ne_nil_of_baseName hbase), hwalk]

lemma ensureDir_of_file (h : d.root.HasDir (d.base r ++ ds)) {bytes : List UInt8}
    (hn : d.root.find? (d.base r ++ ds ++ [e]) = some (.file bytes)) :
    ∃ cause, d.ensureDir (spell r (ds ++ [e])) = (d, .error cause) := by
  have hname : baseName (spell r (ds ++ [e])) = e := Path.baseName_spell r ds he
  have hbase := Path.isName_baseName_spell r ds he
  have hinto := leadsInto_spell hr hds he h
  have hfile : d.isDir (spell r (ds ++ [e])) = false := by
    rw [isDir, node?, hinto.place_of_find? hbase (hname.symm ▸ hn)]
  have hwalk := hinto.walk_eq hbase
  rw [hname, placeIn, hn] at hwalk
  rw [ensureDir, makeDir, if_neg (ne_nil_of_baseName hbase), hwalk]
  dsimp only
  rw [hfile]
  exact ⟨_, rfl⟩

lemma isAttempt_ensureDir (h : d.root.HasDir (d.base r ++ ds)) :
    IsAttempt d r (ds ++ [e]) (d.ensureDir (spell r (ds ++ [e]))) := by
  cases hn : d.root.find? (d.base r ++ ds ++ [e]) with
  | none =>
    rw [ensureDir_of_none hr hds he h hn, IsAttempt, ← List.append_assoc]
    exact makes_setMember h hn
  | some node =>
    rw [List.append_assoc] at hn
    cases node with
    | dir members =>
      have hnames := Path.forall_isName_concat hds he
      have hne : spell r (ds ++ [e]) ≠ [] := fun hnil => by
        simpa using ((Path.spell_eq_nil hnames).mp hnil).2
      rw [ensureDir_of_isDir (isDir_spell hr hnames hne ⟨members, hn⟩)]
      exact makes_self ⟨members, hn⟩
    | file bytes =>
      obtain ⟨cause, hfail⟩ := ensureDir_of_file hr hds he h (by rwa [List.append_assoc])
      rw [hfail]
      exact ⟨rfl, Or.inr ⟨_, bytes, List.prefix_rfl, hn⟩⟩

lemma ensureDir_of_not_hasDir (h : ¬d.root.HasDir (d.base r ++ ds)) :
    ∃ cause, d.ensureDir (spell r (ds ++ [e])) = (d, .error cause) := by
  have hnames := Path.forall_isName_concat hds he
  have hwalk : ∀ p, walk d (origin d (spell r (ds ++ [e]))) (steps (spell r (ds ++ [e]))) ≠ .ok p := by
    intro p hp
    rw [origin_spell hr hnames, steps_spell hnames] at hp
    exact h (hasDir_of_walk_spell hds hp)
  have hdir : d.isDir (spell r (ds ++ [e])) = false := by
    rw [Bool.eq_false_iff]
    intro hdir
    obtain ⟨_, l, members, hp⟩ := walk_of_isDir hdir
    exact hwalk _ hp
  rw [ensureDir, makeDir]
  split
  · rename_i hmade
    split at hmade
    · simp at hmade
    · split at hmade
      · exact (hwalk _ ‹_›).elim
      · simp at hmade
      · simp at hmade
  · rw [hdir]
    exact ⟨_, rfl⟩

omit hr in
lemma lastSplit_spell : lastSplit (spell r (ds ++ [e])) = (spell r ds, e) := by
  have hname : baseName (spell r (ds ++ [e])) = e := Path.baseName_spell r ds he
  simp only [lastSplit, hname, he.ne_nil, if_false, Path.parent_spell r hds he]

omit he in
lemma hasDir_or_isBlocked (h : d.exists? (spell r ds) = true) :
    d.root.HasDir (d.base r ++ ds) ∨ IsBlocked d r ds := by
  obtain ⟨node, hnode⟩ := Option.isSome_iff_exists.mp h
  rw [node?] at hnode
  split at hnode
  · rename_i l n hp
    obtain ⟨_, hwalk, _⟩ := walk_of_place hp
    rw [origin_spell hr hds, steps_spell hds] at hwalk
    have hloc : l = d.base r ++ ds := location_of_walk_names hds hwalk
    have hon : d.root.find? l = some n := isOn_of_walk hwalk
    rw [hloc] at hon
    cases n with
    | dir members => exact Or.inl ⟨members, hon⟩
    | file bytes => exact Or.inr (Or.inr ⟨_, bytes, List.prefix_rfl, hon⟩)
  · simp at hnode

lemma isAttempt_ensureDir_of_or (h : d.root.HasDir (d.base r ++ ds) ∨ IsBlocked d r ds) :
    IsAttempt d r (ds ++ [e]) (d.ensureDir (spell r (ds ++ [e]))) := by
  by_cases hdir : d.root.HasDir (d.base r ++ ds)
  · exact isAttempt_ensureDir hr hds he hdir
  · obtain ⟨cause, hfail⟩ := ensureDir_of_not_hasDir hr hds he hdir
    rw [hfail]
    exact ⟨rfl, (h.resolve_left hdir).concat e⟩

lemma isAttempt_ensureDir_of_makes {d₁ : Disk} (h : d.exists? (spell r ds) = false)
    (hne : spell r ds ≠ []) (hmade : Makes d d₁ (d.base r ++ ds)) :
    IsAttempt d r (ds ++ [e]) (d₁.ensureDir (spell r (ds ++ [e]))) := by
  have hbase : d₁.base r = d.base r := by rw [base, base, hmade.here]
  have hdir : d₁.root.HasDir (d₁.base r ++ ds) := by
    rw [hbase]
    exact hmade.hasDir
  have hfree : d.root.find? (d.base r ++ ds) = none := by
    refine (hmade.above _ List.prefix_rfl).resolve_right fun hd => ?_
    have hpresent : d.exists? (spell r ds) = true := by
      have hisDir := isDir_spell hr hds hne hd
      rw [isDir] at hisDir
      rw [exists?]
      cases hnode : d.node? (spell r ds) with
      | none => simp [hnode] at hisDir
      | some node => rfl
    rw [h] at hpresent
    exact Bool.noConfusion hpresent
  have hnone : d₁.root.find? (d₁.base r ++ ds ++ [e]) = none := by
    rw [hbase, hmade.find?_concat]
    exact Node.find?_eq_none_of_append hfree [e]
  have hlast := makes_setMember hdir hnone
  rw [hbase] at hlast
  rw [ensureDir_of_none hr hds he hdir hnone, IsAttempt, hbase, ← List.append_assoc]
  exact hmade.concat hlast

omit hr hds he in
lemma isAttempt_ensureDir_root : IsAttempt d 1 [] (d.ensureDir (spell 1 [])) := by
  have hspell : spell 1 [] = ['/'] := rfl
  have hbase : d.base 1 ++ [] = [] := rfl
  cases hroot : d.root with
  | dir members =>
    have hdir : d.root.HasDir (d.base 1 ++ []) := ⟨members, by rw [hbase, hroot]; rfl⟩
    rw [ensureDir_of_isDir (isDir_spell le_rfl (by simp) (by simp [hspell]) hdir)]
    exact makes_self hdir
  | file bytes =>
    have hfind : d.root.find? (d.base 1 ++ []) = some (.file bytes) := by rw [hbase, hroot]; rfl
    have hwalk : walk d (origin d ['/']) (steps ['/']) = .ok (.taken [] (.file bytes)) := by
      rw [show origin d ['/'] = [] from rfl, show steps ['/'] = [] from rfl, walk_nil, hroot]
      rfl
    have hdir : d.isDir ['/'] = false := by
      rw [isDir, node?, place, if_neg (by simp), hwalk]
      rfl
    rw [hspell, ensureDir, makeDir, if_neg (by simp), hwalk]
    dsimp only
    rw [hdir]
    exact ⟨rfl, Or.inr ⟨_, bytes, List.prefix_rfl, hfind⟩⟩

omit hr hds he in
lemma makeDirsWithin_root (n : Nat) : makeDirsWithin n d (spell 1 []) = d.ensureDir (spell 1 []) := by
  cases n with
  | zero => rfl
  | succ n =>
    rw [makeDirsWithin, show lastSplit (spell 1 []) = (spell 1 [], []) from rfl]
    simp

omit hr hds he in
lemma isAttempt_makeDirsWithin_root (hr : r ≤ 1) (hne : spell r [] ≠ []) (n : Nat) :
    IsAttempt d r [] (makeDirsWithin n d (spell r [])) := by
  obtain rfl : r = 1 := by
    have hzero : r ≠ 0 := by
      rintro rfl
      exact hne rfl
    omega
  rw [makeDirsWithin_root]
  exact isAttempt_ensureDir_root

omit hds in
lemma isAttempt_ensureDir_first : IsAttempt d r [e] (d.ensureDir (spell r [e])) := by
  have hnil : ∀ x ∈ ([] : List Text), IsName x := by simp
  by_cases hbase : d.root.HasDir (d.base r ++ [])
  · exact isAttempt_ensureDir hr hnil he hbase
  · obtain ⟨cause, hfail⟩ := ensureDir_of_not_hasDir hr hnil he hbase
    rw [List.nil_append] at hfail
    rw [hfail]
    exact ⟨rfl, Or.inl (by rwa [List.append_nil] at hbase)⟩

lemma isAttempt_makeDirsWithin_succ {n : Nat} (hne : spell r ds ≠ [])
    (ih : IsAttempt d r ds (makeDirsWithin n d (spell r ds))) :
    IsAttempt d r (ds ++ [e]) (makeDirsWithin (n + 1) d (spell r (ds ++ [e]))) := by
  rw [makeDirsWithin, lastSplit_spell hds he]
  dsimp only
  rw [decide_eq_false hne, decide_eq_false he.ne_nil, Bool.false_or, Bool.false_or]
  cases hpresent : d.exists? (spell r ds) with
  | true => exact isAttempt_ensureDir_of_or hr hds he (hasDir_or_isBlocked hr hds hpresent)
  | false =>
    rw [if_neg (by simp)]
    cases habove : makeDirsWithin n d (spell r ds) with
    | mk d₁ made =>
      rw [habove] at ih
      cases made with
      | ok made =>
        dsimp only
        rw [if_neg he.ne_dot]
        exact isAttempt_ensureDir_of_makes hr hds he hpresent hne ih
      | error cause =>
        obtain ⟨rfl, hblocked⟩ := ih
        dsimp only
        split
        · exact isAttempt_ensureDir_of_or hr hds he (Or.inr hblocked)
        · exact ⟨rfl, hblocked.concat e⟩

omit hds he in
lemma isAttempt_makeDirsWithin (n : Nat) (hcs : ∀ x ∈ cs, IsName x) (hne : spell r cs ≠ [])
    (hn : cs.length ≤ n + 1) : IsAttempt d r cs (makeDirsWithin n d (spell r cs)) := by
  induction n generalizing cs with
  | zero =>
    rcases List.eq_nil_or_concat cs with rfl | ⟨ds, e, rfl⟩
    · exact isAttempt_makeDirsWithin_root hr hne 0
    · obtain rfl : ds = [] := by
        rw [List.concat_eq_append, List.length_append] at hn
        exact List.length_eq_zero_iff.mp (Nat.le_zero.mp (Nat.le_of_succ_le_succ hn))
      exact isAttempt_ensureDir_first hr (hcs e (by simp))
  | succ n ih =>
    rcases List.eq_nil_or_concat cs with rfl | ⟨ds, e, rfl⟩
    · exact isAttempt_makeDirsWithin_root hr hne (n + 1)
    · rw [List.concat_eq_append] at hcs hn ⊢
      have hds : ∀ x ∈ ds, IsName x := fun x hx => hcs x (by simp [hx])
      have he : IsName e := hcs e (by simp)
      by_cases hempty : spell r ds = []
      · obtain ⟨rfl, rfl⟩ := (Path.spell_eq_nil hds).mp hempty
        rw [makeDirsWithin, lastSplit_spell hds he]
        dsimp only
        rw [decide_eq_true hempty, Bool.true_or, Bool.true_or, if_pos rfl]
        exact isAttempt_ensureDir_first hr he
      · apply isAttempt_makeDirsWithin_succ hr hds he hempty
        apply ih hds hempty
        rw [List.length_append] at hn
        exact Nat.le_of_succ_le_succ hn

omit hds he in
lemma isAttempt_makeDirs (hcs : ∀ x ∈ cs, IsName x) (hne : spell r cs ≠ []) :
    IsAttempt d r cs (d.makeDirs (spell r cs)) :=
  isAttempt_makeDirsWithin hr _ hcs hne
    ((Path.length_le_length_spell hcs).trans (Nat.le_succ _))

end Spell

end SketchBuild.Disk
