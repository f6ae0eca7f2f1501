import SketchBuild.Proofs.Storage.Atomic

namespace SketchBuild

open SketchBuild.Path (baseName parent IsName)

namespace Disk

variable {d d' : Disk} {path target : Text}

lemma here_ensureDir (d : Disk) (path : Text) : (d.ensureDir path).1.here = d.here := by
  rw [ensureDir]
  cases hmade : d.makeDir path with
  | error e => rfl
  | ok d' =>
    rw [makeDir] at hmade
    split at hmade
    · simp at hmade
    · split at hmade
      · obtain rfl := Except.ok.inj hmade
        rfl
      · simp at hmade
      · simp at hmade

lemma here_makeDirsWithin (n : Nat) (d : Disk) (path : Text) :
    (makeDirsWithin n d path).1.here = d.here := by
  induction n generalizing path with
  | zero => exact here_ensureDir d path
  | succ n ih =>
    have hup := ih (lastSplit path).1
    rw [makeDirsWithin]
    dsimp only
    split
    · exact here_ensureDir d path
    · split
      · split
        · rw [here_ensureDir, hup]
        · exact hup
      · split
        · exact hup
        · rw [here_ensureDir, hup]

lemma exists_place_of_rename {l : List Text} {bytes : List UInt8} (h : d.rename path target = .ok d')
    (hl : d.place path = .ok (.taken l (.file bytes))) :
    ∃ p, d.place target = .ok p ∧ asksDirectory target = false ∧
      ∀ k members, p ≠ .taken k (.dir members) := by
  rw [rename, hl] at h
  cases hp : d.place target with
  | error cause => simp [hp] at h
  | ok p =>
    refine ⟨p, rfl, ?_⟩
    rw [hp] at h
    cases p with
    | taken k node =>
      cases node with
      | dir members => simp at h
      | file old => exact ⟨(walk_of_place hp).2.2 k old rfl, by simp⟩
    | free dir name =>
      dsimp only at h
      split at h
      · simp at h
      · rename_i hasks
        exact ⟨by simpa using hasks, by simp⟩

lemma LeadsInto.isDir_parent {dir : List Text} (h : d.LeadsInto path dir) (hne : parent path ≠ []) :
    d.isDir (parent path) = true := by
  obtain ⟨members, hwalk⟩ := h
  rw [← origin_parent hne] at hwalk
  rw [isDir, node?_of_walk_dir hne hwalk]

end Disk

namespace Storage

variable {d d' : Disk} {path : Text} {bytes : List UInt8}

lemma exists_leadsInto_of_writeAside (h : writeAside d path bytes = (d', .ok ())) :
    ∃ dir, d.LeadsInto path dir ∧ IsName (baseName path) ∧
      ¬d.root.HasDir (dir ++ [baseName path]) ∧
      ¬d.root.HasDir (dir ++ [baseName (temporary path)]) := by
  rw [writeAside] at h
  cases hw : d.write (temporary path) bytes with
  | error e => simp [hw] at h
  | ok aside =>
    rw [hw] at h
    dsimp only at h
    cases hr : aside.rename (temporary path) path with
    | error e => simp [hr] at h
    | ok moved =>
      obtain ⟨l, hl⟩ := Disk.place_of_write hw
      obtain ⟨p, hp, hasks, hdir⟩ := Disk.exists_place_of_rename hr hl
      obtain ⟨hne, hwalk, _⟩ := Disk.walk_of_place hp
      obtain ⟨_, _, hname⟩ := Disk.exists_leadsInto hne hasks hwalk hdir
      obtain ⟨q, hne', hasks', hwalk', hfor, _⟩ := Disk.exists_of_write hw
      have hnot : ∀ k members, q ≠ .taken k (.dir members) := by
        rintro k members rfl
        obtain ⟨dir, name, hloc, _, hfile⟩ := hfor
        rw [Disk.Place.location] at hloc
        exact hfile ⟨members, hloc ▸ Disk.isOn_of_walk hwalk'⟩
      obtain ⟨dir, hinto, _⟩ := Disk.exists_leadsInto hne' hasks' hwalk' hnot
      rw [Disk.LeadsInto, parent_temporary, temporary,
        Disk.origin_eq_of_head (List.head?_append_of_ne_nil path hne)] at hinto
      have htmp : ¬d.root.HasDir (dir ++ [baseName (temporary path)]) := by
        intro hd
        rw [(leadsInto_temporary hinto hne).write_of_hasDir (isName_temporary path) bytes hd] at hw
        simp at hw
      refine ⟨dir, hinto, hname, ?_, htmp⟩
      intro hd
      obtain ⟨e, haside⟩ := writeAside_of_hasDir hinto hname bytes htmp hd
      rw [writeAside, hw] at haside
      dsimp only at haside
      rw [hr] at haside
      simp at haside

structure IsSettled (d : Disk) (path : Text) (dir : List Text) : Prop where
  name : IsName (baseName path)
  leads : d.LeadsInto path dir
  file : ∃ bytes, d.root.find? (dir ++ [baseName path]) = some (.file bytes)
  free : d.root.find? (dir ++ [baseName (temporary path)]) = none

lemma exists_isSettled {v : Json} (h : (writeJson d path v).value = (d', .ok ())) :
    d'.here = d.here ∧ ∃ dir, IsSettled d' path dir := by
  have hmade : (if parent path = [] then (d, .ok ()) else d.makeDirs (parent path)).1.here =
      d.here := by
    split
    · rfl
    · exact Disk.here_makeDirsWithin _ d _
  rw [value_writeJson] at h
  dsimp only at h
  generalize (if parent path = [] then (d, .ok ()) else d.makeDirs (parent path)) = made at h hmade
  split at h
  · simp at h
  · split at h
    · rename_i d₂ hwritten
      obtain ⟨rfl, _⟩ := Prod.mk.inj h
      obtain ⟨dir, hinto, hname, hfile, htmp⟩ := exists_leadsInto_of_writeAside hwritten
      rw [writeAside_eq hinto hname (documentBytes v) htmp hfile] at hwritten
      obtain ⟨hd, _⟩ := Prod.mk.inj hwritten
      obtain ⟨hinto', hfind, hnone⟩ := leadsInto_settled hinto (documentBytes v) hfile htmp
      rw [← hd]
      exact ⟨hmade, dir, hname, hinto', ⟨_, hfind⟩, hnone⟩
    · simp at h

lemma IsSettled.value_writeJson {dir : List Text} (h : IsSettled d path dir) (v : Json) :
    (writeJson d path v).value =
      (d.setMember dir (baseName path) (.file (documentBytes v)), .ok ()) := by
  obtain ⟨bytes, hfile⟩ := h.file
  have hmade : (if parent path = [] then (d, .ok ()) else d.makeDirs (parent path)) =
      (d, .ok ()) := by
    split
    · rfl
    · rename_i hne
      exact Disk.makeDirs_of_isDir (h.leads.isDir_parent hne)
  rw [Storage.value_writeJson, hmade]
  dsimp only
  rw [writeAside_eq h.leads h.name _ (Disk.not_hasDir_of_none h.free)
    (Disk.not_hasDir_of_file hfile), settled, Disk.dropMember_self h.free]

lemma value_writeJson_again {v : Json} (h : (writeJson d path v).value = (d', .ok ())) :
    (writeJson d' path v).value = (d', .ok ()) := by
  obtain ⟨_, dir, hsettled⟩ := exists_isSettled h
  obtain ⟨bytes, hfile⟩ := hsettled.file
  have hread := Disk.read_of_place (hsettled.leads.place_of_find? hsettled.name hfile)
  rw [read_of_writeJson h] at hread
  obtain rfl := Except.ok.inj hread
  rw [hsettled.value_writeJson, Disk.setMember_self hfile]

lemma writeJson_of_read (h : d.read path = .ok bytes) (v : Json) :
    (∃ d', (writeJson d path v).value = (d', .ok ())) ∨
      d.isDir (temporary path) = true ∧ ∃ e, (writeJson d path v).value = (d, .error e) := by
  obtain ⟨l, hplace⟩ := Disk.exists_of_read h
  obtain ⟨hne, hwalk, hasks⟩ := Disk.walk_of_place hplace
  obtain ⟨dir, hinto, hname⟩ := Disk.exists_leadsInto hne (hasks l bytes rfl) hwalk (by simp)
  have hfile : ¬d.root.HasDir (dir ++ [baseName path]) := by
    rintro ⟨members, hdir⟩
    rw [hinto.place_of_find? hname hdir] at hplace
    simp at hplace
  have hmade : (if parent path = [] then (d, .ok ()) else d.makeDirs (parent path)) = (d, .ok ()) := by
    split
    · rfl
    · rename_i hparent
      exact Disk.makeDirs_of_isDir (hinto.isDir_parent hparent)
  rw [value_writeJson, hmade]
  dsimp only
  by_cases htmp : d.root.HasDir (dir ++ [baseName (temporary path)])
  · have haside := leadsInto_temporary hinto hne
    have hwrite := haside.write_of_hasDir (isName_temporary path) (documentBytes v) htmp
    rw [writeAside_of_write_error hwrite]
    dsimp only
    rw [cleanUp_of_write_error hwrite]
    obtain ⟨members, hmembers⟩ := htmp
    refine Or.inr ⟨?_, _, rfl⟩
    rw [Disk.isDir, Disk.node?, haside.place_of_find? (isName_temporary path) hmembers]
  · rw [writeAside_eq hinto hname _ htmp hfile]
    exact Or.inl ⟨_, rfl⟩

end Storage

end SketchBuild
