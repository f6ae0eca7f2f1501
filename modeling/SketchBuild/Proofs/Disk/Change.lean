import SketchBuild.Proofs.Disk.Walk

namespace SketchBuild

lemma Node.HasDir.of_modify {f : Table Text Node → Table Text Node} {n : Node} {l : List Text}
    (hf : ∀ members a ms,
      Table.find? a (f members) = some (.dir ms) → Table.find? a members = some (.dir ms))
    {k : List Text} (h : (n.modify f l).HasDir k) : n.HasDir k := by
  induction l generalizing n k with
  | nil =>
    cases n with
    | file bytes => exact (hasDir_file h).elim
    | dir members =>
      cases k with
      | nil => exact ⟨members, rfl⟩
      | cons a k =>
        obtain ⟨c, hc, hk⟩ := hasDir_cons.mp h
        cases c with
        | file bytes => exact (hasDir_file hk).elim
        | dir ms => exact hasDir_cons.mpr ⟨.dir ms, hf members a ms hc, hk⟩
  | cons b l ih =>
    cases n with
    | file bytes => exact (hasDir_file h).elim
    | dir members =>
      rw [Node.modify] at h
      cases hb : Table.find? b members with
      | none =>
        rw [hb] at h
        exact h
      | some c =>
        rw [hb] at h
        dsimp only at h
        cases k with
        | nil => exact ⟨members, rfl⟩
        | cons a k =>
          obtain ⟨e, he, hk⟩ := hasDir_cons.mp h
          apply hasDir_cons.mpr
          rw [Table.find?_put] at he
          by_cases hab : b = a
          · subst hab
            rw [if_pos rfl] at he
            obtain rfl := Option.some.inj he
            exact ⟨c, hb, ih hk⟩
          · rw [if_neg hab] at he
            exact ⟨e, he, hk⟩

namespace Disk

variable {d d' : Disk} {path target : Text} {bytes : List UInt8}

lemma steps_ne_nil (hp : path ≠ []) (hd : asksDirectory path = false) : steps path ≠ [] := by
  have hpiece : ∀ (s : Text) (c : Char), c ∈ s → c ≠ '/' → ∃ p ∈ Text.pieces '/' s, p ≠ [] := by
    intro s c hc hslash
    induction s with
    | nil => simp at hc
    | cons a s ih =>
      rw [Text.pieces]
      split
      · rename_i ha
        rcases List.mem_cons.mp hc with rfl | hc
        · exact (hslash ha).elim
        · obtain ⟨p, hp, hne⟩ := ih hc
          exact ⟨p, by simp [hp], hne⟩
      · cases Text.pieces '/' s with
        | nil => exact ⟨[a], by simp [Text.extend], by simp⟩
        | cons w ws => exact ⟨a :: w, by simp [Text.extend], by simp⟩
  obtain ⟨s, c, hs⟩ := List.eq_nil_or_concat path |>.resolve_left hp
  have hslash : c ≠ '/' := by
    rintro rfl
    simp [asksDirectory, hs] at hd
  obtain ⟨p, hp, hne⟩ := hpiece path c (by simp [hs]) hslash
  intro hnil
  have hmem : p ∈ steps path := List.mem_filter.mpr ⟨hp, by simpa using hne⟩
  rw [hnil] at hmem
  simp at hmem

lemma ne_nil_of_walk_file {l parts k : List Text} (hparts : parts ≠ [])
    (h : walk d l parts = .ok (.taken k (.file bytes))) : k ≠ [] := by
  rintro rfl
  have hroot : d.root = .file bytes := Option.some.inj (isOn_of_walk h)
  cases parts with
  | nil => exact hparts rfl
  | cons part rest =>
    have hdir := hasDir_of_walk_cons h
    rw [hroot] at hdir
    exact Node.hasDir_file hdir

def Place.IsForFile (d : Disk) (p : Place) : Prop :=
  ∃ dir name, p.location = dir ++ [name] ∧ d.root.HasDir dir ∧ ¬d.root.HasDir (dir ++ [name])

def putFile (d : Disk) (bytes : List UInt8) : Place → Disk
  | .taken l _ => d.setAt l (.file bytes)
  | .free dir name => d.setMember dir name (.file bytes)

lemma isForFile_of_walk {l parts : List Text} {p : Place} (hparts : parts ≠ [])
    (h : walk d l parts = .ok p) (hdir : ∀ k members, p ≠ .taken k (.dir members)) :
    p.IsForFile d := by
  have hon := isOn_of_walk h
  cases p with
  | taken k node =>
    cases node with
    | dir members => exact (hdir k members rfl).elim
    | file old =>
      obtain ⟨dir, name, rfl⟩ := List.eq_nil_or_concat k |>.resolve_left (ne_nil_of_walk_file hparts h)
      rw [List.concat_eq_append] at hon
      obtain ⟨members, hm, _⟩ := Node.exists_dir_of_concat hon
      refine ⟨dir, name, by rw [Place.location, List.concat_eq_append], ⟨members, hm⟩, ?_⟩
      rintro ⟨ms, hms⟩
      rw [Place.IsOn] at hon
      simp [hon] at hms
  | free dir name =>
    refine ⟨dir, name, rfl, hon.1, ?_⟩
    rintro ⟨ms, hms⟩
    simp [hon.2] at hms

lemma putFile_eq {p : Place} {dir : List Text} {name : Text} (h : p.location = dir ++ [name]) :
    d.putFile bytes p = d.setMember dir name (.file bytes) := by
  cases p with
  | taken l node =>
    rw [Place.location] at h
    simp [putFile, setAt, h]
  | free dir' name' =>
    obtain ⟨rfl, hname⟩ := List.append_inj' h rfl
    obtain rfl := List.singleton_inj.mp hname
    rfl

lemma Place.IsForFile.keepsDirs {p : Place} (h : p.IsForFile d) :
    KeepsDirs d (d.putFile bytes p) := by
  obtain ⟨dir, name, hp, _, hnot⟩ := h
  rw [putFile_eq hp]
  exact keepsDirs_setMember _ hnot

lemma Place.IsForFile.find? {p : Place} (h : p.IsForFile d) :
    (d.putFile bytes p).root.find? p.location = some (.file bytes) := by
  obtain ⟨dir, name, hp, hdir, _⟩ := h
  rw [putFile_eq hp, hp]
  exact find?_setMember hdir name _

lemma here_putFile (p : Place) : (d.putFile bytes p).here = d.here := by
  cases p with
  | taken l node =>
    rw [putFile, setAt]
    cases l.getLast? <;> rfl
  | free dir name => rfl

lemma here_dropAt (l : List Text) : (d.dropAt l).here = d.here := by
  rw [dropAt]
  cases l.getLast? <;> rfl

lemma keepsDirs_dropAt {l : List Text} (h : ¬d.root.HasDir l) : KeepsDirs d (d.dropAt l) := by
  rw [dropAt]
  cases hl : l.getLast? with
  | none => exact fun _ hk => hk
  | some name =>
    obtain ⟨dir, rfl⟩ := List.getLast?_eq_some_iff.mp hl
    rw [List.dropLast_concat]
    exact keepsDirs_dropMember h

lemma hasDir_of_dropAt {l k : List Text} (h : (d.dropAt l).root.HasDir k) : d.root.HasDir k := by
  rw [dropAt] at h
  cases hl : l.getLast? with
  | none =>
    rw [hl] at h
    exact h
  | some name =>
    rw [hl] at h
    apply Node.HasDir.of_modify _ h
    intro members a ms ha
    rw [Table.find?_erase] at ha
    split at ha
    · simp at ha
    · exact ha

lemma Place.IsForFile.dropAt {p : Place} (h : p.IsForFile d) {l : List Text}
    (hl : ¬d.root.HasDir l) : p.IsForFile (d.dropAt l) := by
  obtain ⟨dir, name, hp, hdir, hnot⟩ := h
  exact ⟨dir, name, hp, keepsDirs_dropAt hl dir hdir, fun hd => hnot (hasDir_of_dropAt hd)⟩

lemma origin_congr (h : d'.here = d.here) (path : Text) : origin d' path = origin d path := by
  rw [origin, origin, h]

lemma exists_of_write (h : d.write path bytes = .ok d') :
    ∃ p, path ≠ [] ∧ asksDirectory path = false ∧
      walk d (origin d path) (steps path) = .ok p ∧ p.IsForFile d ∧ d' = d.putFile bytes p := by
  rw [write] at h
  split at h
  · simp at h
  · rename_i hne
    split at h
    · simp at h
    · simp at h
    · rename_i l old hwalk
      split at h
      · simp at h
      · rename_i hasks
        have hasks' : asksDirectory path = false := by simpa using hasks
        obtain rfl := Except.ok.inj h
        exact ⟨_, hne, hasks', hwalk, isForFile_of_walk (steps_ne_nil hne hasks') hwalk (by simp), rfl⟩
    · rename_i dir name hwalk
      split at h
      · simp at h
      · rename_i hasks
        have hasks' : asksDirectory path = false := by simpa using hasks
        obtain rfl := Except.ok.inj h
        exact ⟨_, hne, hasks', hwalk, isForFile_of_walk (steps_ne_nil hne hasks') hwalk (by simp), rfl⟩

lemma place_of_keepsDirs {p : Place} (hd : KeepsDirs d d') (hh : d'.here = d.here) (hne : path ≠ [])
    (hasks : asksDirectory path = false) (hwalk : walk d (origin d path) (steps path) = .ok p)
    (hn : d'.root.find? p.location = some (.file bytes)) :
    d'.place path = .ok (.taken p.location (.file bytes)) := by
  rw [place, if_neg hne, origin_congr hh, walk_of_keepsDirs hd hwalk hn]
  simp [hasks]

lemma place_of_write (h : d.write path bytes = .ok d') :
    ∃ l, d'.place path = .ok (.taken l (.file bytes)) := by
  obtain ⟨p, hne, hasks, hwalk, hfor, rfl⟩ := exists_of_write h
  exact ⟨p.location, place_of_keepsDirs hfor.keepsDirs (here_putFile p) hne hasks hwalk hfor.find?⟩

lemma walk_of_place {p : Place} (h : d.place path = .ok p) :
    path ≠ [] ∧ walk d (origin d path) (steps path) = .ok p ∧
      ∀ l old, p = .taken l (.file old) → asksDirectory path = false := by
  rw [place] at h
  split at h
  · simp at h
  · rename_i hne
    refine ⟨hne, ?_⟩
    split at h
    · rename_i l old hwalk
      split at h
      · simp at h
      · rename_i hasks
        obtain rfl := Except.ok.inj h
        exact ⟨hwalk, fun _ _ _ => by simpa using hasks⟩
    · rename_i hnot
      refine ⟨h, ?_⟩
      rintro l old rfl
      exact (hnot l old h).elim

lemma place_of_rename (h : d.rename path target = .ok d') {l : List Text}
    (hl : d.place path = .ok (.taken l (.file bytes))) :
    ∃ k, d'.place target = .ok (.taken k (.file bytes)) := by
  have hfile : ¬d.root.HasDir l := by
    rintro ⟨ms, hms⟩
    have hon := isOn_of_walk (walk_of_place hl).2.1
    rw [Place.IsOn] at hon
    simp [hon] at hms
  have hput : ∀ p : Place, d.place target = .ok p → asksDirectory target = false →
      (∀ k members, p ≠ .taken k (.dir members)) → d' = (d.dropAt l).putFile bytes p →
      ∃ k, d'.place target = .ok (.taken k (.file bytes)) := by
    rintro p hp hasks hdir rfl
    obtain ⟨hne, hwalk, _⟩ := walk_of_place hp
    have hfor := (isForFile_of_walk (steps_ne_nil hne hasks) hwalk hdir).dropAt hfile
    refine ⟨p.location, place_of_keepsDirs ((keepsDirs_dropAt hfile).trans hfor.keepsDirs) ?_ hne
      hasks hwalk hfor.find?⟩
    rw [here_putFile, here_dropAt]
  rw [rename, hl] at h
  cases hp : d.place target with
  | error cause => simp [hp] at h
  | ok p =>
    cases p with
    | taken k node =>
      cases node with
      | dir members => simp [hp] at h
      | file old =>
        rw [hp] at h
        obtain rfl := Except.ok.inj h
        exact hput _ hp ((walk_of_place hp).2.2 k old rfl) (by simp) rfl
    | free dir name =>
      rw [hp] at h
      dsimp only at h
      split at h
      · simp at h
      · rename_i hasks
        obtain rfl := Except.ok.inj h
        exact hput _ hp (by simpa using hasks) (by simp) rfl

lemma read_of_place {l : List Text} (h : d.place path = .ok (.taken l (.file bytes))) :
    d.read path = .ok bytes := by
  rw [read, h]

lemma exists_of_read (h : d.read path = .ok bytes) :
    ∃ l, d.place path = .ok (.taken l (.file bytes)) := by
  rw [read] at h
  split at h
  · rename_i l b hp
    obtain rfl := Except.ok.inj h
    exact ⟨l, hp⟩
  · simp at h
  · simp at h
  · simp at h

lemma isFile_iff : d.isFile path = true ↔ ∃ bytes, d.read path = .ok bytes := by
  rw [isFile, node?, read]
  cases d.place path with
  | error cause => simp
  | ok p =>
    cases p with
    | free dir name => simp
    | taken l node => cases node <;> simp

end Disk

end SketchBuild
