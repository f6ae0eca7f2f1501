import SketchBuild.Proofs.Disk.Change
import SketchBuild.Proofs.Disk.Frame

namespace SketchBuild.Disk

variable {d d' : Disk} {path : Text}

def location? (d : Disk) (path : Text) : Option (List Text) :=
  match d.place path with
  | .ok p => some p.location
  | .error _ => none

lemma location?_of_place {p : Place} (h : d.place path = .ok p) :
    d.location? path = some p.location := by
  rw [location?, h]

lemma place_file_of_keepsDirs (hd : KeepsDirs d d') (hh : d'.here = d.here) {l : List Text}
    {old bytes : List UInt8} (h : d.place path = .ok (.taken l (.file old)))
    (hn : d'.root.find? l = some (.file bytes)) : d'.place path = .ok (.taken l (.file bytes)) := by
  obtain ⟨hne, hwalk, hasks⟩ := walk_of_place h
  exact place_of_keepsDirs hd hh hne (hasks l old rfl) hwalk hn

structure AgreesBut (d d' : Disk) (l : List Text) : Prop where
  here : d'.here = d.here
  keepsDirs : KeepsDirs d d'
  keepsDirs' : KeepsDirs d' d
  file : ∃ bytes, d'.root.find? l = some (.file bytes)
  files : ∀ k, k ≠ l → ∀ bytes, d'.root.find? k = some (.file bytes) ↔
    d.root.find? k = some (.file bytes)

lemma AgreesBut.read_eq {l : List Text} (h : AgreesBut d d' l) (hp : d'.location? path ≠ some l) :
    (d'.read path).toOption = (d.read path).toOption := by
  have hback : ∀ bytes, d'.read path = .ok bytes → d.read path = .ok bytes := by
    intro bytes hread
    obtain ⟨k, hk⟩ := exists_of_read hread
    have hne : k ≠ l := by
      rintro rfl
      exact hp (location?_of_place hk)
    have hfile := (h.files k hne bytes).mp (isOn_of_walk (walk_of_place hk).2.1)
    exact read_of_place (place_file_of_keepsDirs h.keepsDirs' h.here.symm hk hfile)
  cases hread : d'.read path with
  | ok bytes => rw [hback bytes hread]
  | error e =>
    cases hread' : d.read path with
    | error e' => rfl
    | ok bytes =>
      obtain ⟨k, hk⟩ := exists_of_read hread'
      have hon : d.root.find? k = some (.file bytes) := isOn_of_walk (walk_of_place hk).2.1
      have hsome : ∃ new, d'.root.find? k = some (.file new) := by
        by_cases hkl : k = l
        · rw [hkl]
          exact h.file
        · exact ⟨bytes, (h.files k hkl bytes).mpr hon⟩
      obtain ⟨new, hnew⟩ := hsome
      have hplace := place_file_of_keepsDirs h.keepsDirs h.here hk hnew
      rw [read_of_place hplace] at hread
      simp at hread

lemma exists?_of_keepsDirs (hd : KeepsDirs d d') (hh : d'.here = d.here)
    (hfile : ∀ l bytes, d.root.find? l = some (.file bytes) →
      ∃ new, d'.root.find? l = some (.file new)) (h : d.exists? path = true) :
    d'.exists? path = true := by
  rw [exists?, node?] at h
  cases hp : d.place path with
  | error cause => simp [hp] at h
  | ok p =>
    cases p with
    | free dir name => simp [hp] at h
    | taken l node =>
      obtain ⟨hne, hwalk, _⟩ := walk_of_place hp
      have hon : d.root.find? l = some node := isOn_of_walk hwalk
      have hplace : ∃ new, d'.place path = .ok (.taken l new) := by
        cases node with
        | file old =>
          obtain ⟨new, hnew⟩ := hfile l old hon
          exact ⟨_, place_file_of_keepsDirs hd hh hp hnew⟩
        | dir members =>
          obtain ⟨members', hm⟩ := hd l ⟨members, hon⟩
          have hwalk' := walk_of_keepsDirs hd hwalk hm
          refine ⟨.dir members', ?_⟩
          rw [place, if_neg hne, origin_congr hh, hwalk']
          rfl
      obtain ⟨new, hnew⟩ := hplace
      rw [exists?, node?, hnew]
      rfl

lemma AgreesBut.exists?_eq {l : List Text} (h : AgreesBut d d' l)
    (hold : ∃ bytes, d.root.find? l = some (.file bytes)) (path : Text) :
    d'.exists? path = d.exists? path := by
  have hfiles : ∀ k bytes, d.root.find? k = some (.file bytes) →
      ∃ new, d'.root.find? k = some (.file new) := by
    intro k bytes hk
    by_cases hkl : k = l
    · rw [hkl]
      exact h.file
    · exact ⟨bytes, (h.files k hkl bytes).mpr hk⟩
  have hfiles' : ∀ k bytes, d'.root.find? k = some (.file bytes) →
      ∃ new, d.root.find? k = some (.file new) := by
    intro k bytes hk
    by_cases hkl : k = l
    · rw [hkl]
      exact hold
    · exact ⟨bytes, (h.files k hkl bytes).mp hk⟩
  apply Bool.eq_iff_iff.mpr
  exact ⟨exists?_of_keepsDirs h.keepsDirs' h.here.symm hfiles',
    exists?_of_keepsDirs h.keepsDirs h.here hfiles⟩

lemma agreesBut_setMember {dir : List Text} {name : Text} {old : List UInt8} (bytes : List UInt8)
    (h : d.root.find? (dir ++ [name]) = some (.file old)) :
    AgreesBut d (d.setMember dir name (.file bytes)) (dir ++ [name]) := by
  obtain ⟨members, hm, _⟩ := Node.exists_dir_of_concat h
  have hkeeps := keepsDirs_setMember (.file bytes) (not_hasDir_of_file h)
  have hfind := find?_setMember ⟨members, hm⟩ name (.file bytes)
  refine ⟨rfl, hkeeps, ?_, ⟨bytes, hfind⟩, ?_⟩
  · intro l hl
    apply Node.HasDir.of_modify _ hl
    intro ms a inner ha
    rw [Table.find?_put] at ha
    split at ha
    · simp at ha
    · exact ha
  · intro k hk content
    by_cases hdir : k <+: dir
    · -- a directory on both disks
      have hleft : d.root.HasDir k := Node.HasDir.of_prefix ⟨members, hm⟩ hdir
      constructor
      · exact fun hfile => absurd (hkeeps k hleft) (not_hasDir_of_file hfile)
      · exact fun hfile => absurd hleft (not_hasDir_of_file hfile)
    · by_cases hbelow : dir ++ [name] <+: k
      · obtain ⟨r, rfl⟩ := hbelow
        have hr : r ≠ [] := by
          rintro rfl
          exact hk (List.append_nil _)
        rw [Node.find?_below_file h hr, Node.find?_below_file hfind hr]
      · rw [find?_setMember_other hdir hbelow]

end SketchBuild.Disk
