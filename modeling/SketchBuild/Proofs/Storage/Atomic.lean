import SketchBuild.Proofs.Disk.Directories
import SketchBuild.Proofs.Storage.Document

namespace SketchBuild

open SketchBuild.Path (baseName parent IsName IsPlain spell)

def Disk.locate (d : Disk) (path : Text) : List Text := d.origin path ++ Disk.steps path

namespace Storage

section Aside

variable {d : Disk} {path : Text} {dir : List Text}

lemma not_slash_mem_suffix : '/' ∉ (".tmp" : Text) := by decide

lemma baseName_temporary (path : Text) : baseName (temporary path) = baseName path ++ ".tmp" :=
  Path.baseName_append_of_not_mem path not_slash_mem_suffix

lemma parent_temporary (path : Text) : parent (temporary path) = parent path :=
  Path.parent_append_of_not_mem path not_slash_mem_suffix

lemma baseName_temporary_ne (path : Text) : baseName path ≠ baseName (temporary path) := by
  intro h
  have hlength := congrArg List.length h
  rw [baseName_temporary, List.length_append] at hlength
  simp at hlength

lemma not_prefix_concat (dir : List Text) (c : Text) : ¬dir ++ [c] <+: dir :=
  fun h => absurd h.length_le (by simp)

lemma not_prefix_aside (dir : List Text) {a c : Text} (h : a ≠ c) : ¬dir ++ [a] <+: dir ++ [c] := by
  intro hk
  have heq := List.append_cancel_left (hk.eq_of_length (by simp))
  exact h (List.singleton_inj.mp heq)

lemma isName_temporary (path : Text) : IsName (baseName (temporary path)) := by
  have hlength : 4 ≤ (baseName (temporary path)).length := by
    rw [baseName_temporary, List.length_append]
    exact Nat.le_add_left _ _
  refine ⟨?_, Path.not_slash_mem_baseName _, ?_, ?_⟩
  all_goals
    intro h
    rw [h] at hlength
    simp at hlength

lemma leadsInto_temporary (h : d.LeadsInto path dir) (hne : path ≠ []) :
    d.LeadsInto (temporary path) dir := h.append hne not_slash_mem_suffix

lemma writeAside_of_write_error {bytes : List UInt8} {e : Disk.Error} (h : d.write (temporary path) bytes = .error e) :
    writeAside d path bytes = (d, .error e) := by
  rw [writeAside, h]

lemma cleanUp_of_write_error {bytes : List UInt8} {e : Disk.Error} (h : d.write (temporary path) bytes = .error e) :
    (cleanUp d path).value = d := by
  rw [cleanUp]
  split
  · cases hremove : d.remove (temporary path) with
    | error e => rfl
    | ok removed =>
      -- what can be removed is a file, and a file can be written
      rw [Disk.remove] at hremove
      split at hremove
      · rename_i l old hp
        obtain ⟨hne, hwalk, hasks⟩ := Disk.walk_of_place hp
        rw [Disk.write, if_neg hne, hwalk] at h
        simp [hasks l old rfl] at h
      · simp at hremove
      · simp at hremove
      · simp at hremove
  · rfl

def settled (d : Disk) (dir : List Text) (path : Text) (bytes : List UInt8) : Disk :=
  (d.dropMember dir (baseName (temporary path))).setMember dir (baseName path) (.file bytes)

variable (h : d.LeadsInto path dir) (hc : IsName (baseName path)) (bytes : List UInt8)

include h hc

lemma write_temporary (htmp : ¬d.root.HasDir (dir ++ [baseName (temporary path)])) :
    d.write (temporary path) bytes =
      .ok (d.setMember dir (baseName (temporary path)) (.file bytes)) :=
  (leadsInto_temporary h (Disk.ne_nil_of_baseName hc)).write_eq (isName_temporary path) htmp

lemma place_temporary (htmp : ¬d.root.HasDir (dir ++ [baseName (temporary path)])) :
    (d.setMember dir (baseName (temporary path)) (.file bytes)).place (temporary path) =
      .ok (.taken (dir ++ [baseName (temporary path)]) (.file bytes)) := by
  have hkeeps := Disk.keepsDirs_setMember (.file bytes) htmp
  have hinto := (leadsInto_temporary h (Disk.ne_nil_of_baseName hc)).of_keepsDirs hkeeps rfl
  exact hinto.place_of_find? (isName_temporary path) (Disk.find?_setMember h.hasDir _ _)

omit h hc in
lemma find?_setMember_temporary :
    (d.setMember dir (baseName (temporary path)) (.file bytes)).root.find? (dir ++ [baseName path]) =
      d.root.find? (dir ++ [baseName path]) := by
  apply Disk.find?_setMember_other (not_prefix_concat dir _)
  exact not_prefix_aside dir (baseName_temporary_ne path).symm

lemma writeAside_eq (htmp : ¬d.root.HasDir (dir ++ [baseName (temporary path)]))
    (hd : ¬d.root.HasDir (dir ++ [baseName path])) :
    writeAside d path bytes = (settled d dir path bytes, .ok ()) := by
  have hinto := h.of_keepsDirs (Disk.keepsDirs_setMember (.file bytes) htmp) rfl
  have hrename := hinto.rename_eq hc (place_temporary h hc bytes htmp)
    (by rwa [Node.HasDir, find?_setMember_temporary])
  rw [writeAside, write_temporary h hc bytes htmp]
  dsimp only
  rw [hrename, Disk.dropMember_setMember, settled]

lemma writeAside_of_hasDir (htmp : ¬d.root.HasDir (dir ++ [baseName (temporary path)]))
    (hd : d.root.HasDir (dir ++ [baseName path])) :
    ∃ e, writeAside d path bytes =
      (d.setMember dir (baseName (temporary path)) (.file bytes), .error e) := by
  have hinto := h.of_keepsDirs (Disk.keepsDirs_setMember (.file bytes) htmp) rfl
  obtain ⟨e, hrename⟩ := hinto.rename_of_hasDir hc (place_temporary h hc bytes htmp)
    (by rwa [Node.HasDir, find?_setMember_temporary])
  rw [writeAside, write_temporary h hc bytes htmp]
  dsimp only
  rw [hrename]
  exact ⟨e, rfl⟩

lemma cleanUp_setMember (htmp : ¬d.root.HasDir (dir ++ [baseName (temporary path)])) :
    (cleanUp (d.setMember dir (baseName (temporary path)) (.file bytes)) path).value =
      d.dropMember dir (baseName (temporary path)) := by
  have hplace := place_temporary h hc bytes htmp
  have hexists : (d.setMember dir (baseName (temporary path)) (.file bytes)).exists?
      (temporary path) = true := by
    rw [Disk.exists?, Disk.node?, hplace]
    rfl
  rw [cleanUp, if_pos hexists, Disk.remove, hplace]
  dsimp only
  rw [Disk.dropAt_concat, Disk.dropMember_setMember]
  rfl

end Aside

structure IsWritten (d d' : Disk) (path : Text) (v : Json) : Prop where
  here : d'.here = d.here
  content : d'.read path = .ok (Text.Utf8.encode (v.pretty ++ ['\n']))
  file : d'.root.find? (d.locate path) = some (.file (Text.Utf8.encode (v.pretty ++ ['\n'])))
  gone : d'.exists? (temporary path) = false
  free : d'.root.find? (d.locate (temporary path)) = none
  above : ∀ l, l <+: d.locate path → l ≠ d.locate path →
    d'.root.HasDir l ∧ (d.root.find? l = none ∨ d.root.HasDir l)
  others : ∀ l, ¬l <+: d.locate path → l ≠ d.locate (temporary path) →
    d'.root.find? l = d.root.find? l

/-- What can be in the way of a writing: no directory to start from, a file in place of a directory,
or a directory in place of the file or of the temporary one. -/
def IsPrevented (d : Disk) (path : Text) : Prop :=
  ¬d.root.HasDir (d.origin path) ∨
    (∃ l bytes, l <+: (d.locate path).dropLast ∧ d.root.find? l = some (.file bytes)) ∨
    d.root.HasDir (d.locate path) ∨ d.root.HasDir (d.locate (temporary path))

structure IsUntouched (d d' : Disk) (path : Text) : Prop where
  disk : d' = d ∨ (∃ bytes, d.root.find? (d.locate (temporary path)) = some (.file bytes)) ∧
    d' = d.dropAt (d.locate (temporary path))
  content : d'.read path = d.read path
  prevented : IsPrevented d path

section Placed

variable {d d' : Disk} {path : Text} {dir : List Text} {bytes : List UInt8}

lemma locate_eq (h : d.origin path ++ Disk.steps (parent path) = dir) (hc : IsName (baseName path)) :
    d.locate path = dir ++ [baseName path] ∧
      d.locate (temporary path) = dir ++ [baseName (temporary path)] := by
  constructor
  · rw [Disk.locate, Disk.steps_parent hc.ne_nil, ← List.append_assoc, h]
  · rw [Disk.locate, Disk.steps_parent (isName_temporary path).ne_nil, ← List.append_assoc,
      parent_temporary, temporary,
      Disk.origin_eq_of_head (List.head?_append_of_ne_nil path (Disk.ne_nil_of_baseName hc)), h]

lemma find?_below {n : Node} {l k : List Text} (h : ¬n.HasDir l) (hk : l <+: k) (hne : k ≠ l) :
    n.find? k = none := by
  obtain ⟨r, rfl⟩ := hk
  have hr : r ≠ [] := by
    rintro rfl
    exact hne (List.append_nil l)
  cases hn : n.find? l with
  | none => exact Node.find?_eq_none_of_append hn r
  | some node =>
    cases node with
    | file bytes => exact Node.find?_below_file hn hr
    | dir members => exact (h ⟨members, hn⟩).elim

lemma leadsInto_settled (hinto : d.LeadsInto path dir) (bytes : List UInt8)
    (hname : ¬d.root.HasDir (dir ++ [baseName path]))
    (htmp : ¬d.root.HasDir (dir ++ [baseName (temporary path)])) :
    (settled d dir path bytes).LeadsInto path dir ∧
      (settled d dir path bytes).root.find? (dir ++ [baseName path]) = some (.file bytes) ∧
      (settled d dir path bytes).root.find? (dir ++ [baseName (temporary path)]) = none := by
  have hdrop : d.KeepsDirs (d.dropMember dir (baseName (temporary path))) :=
    Disk.keepsDirs_dropMember htmp
  have hleft : ¬(d.dropMember dir (baseName (temporary path))).root.HasDir
      (dir ++ [baseName path]) := by
    rw [Node.HasDir, Disk.find?_dropMember_other (not_prefix_concat dir _)]
    · exact hname
    · exact not_prefix_aside dir (baseName_temporary_ne path).symm
  have hput := Disk.keepsDirs_setMember (.file bytes) hleft
  refine ⟨hinto.of_keepsDirs (hdrop.trans hput) rfl, ?_, ?_⟩
  · exact Disk.find?_setMember (hdrop dir hinto.hasDir) _ _
  · rw [settled, Disk.find?_setMember_other (not_prefix_concat dir _), Disk.find?_dropMember hinto.hasDir]
    exact not_prefix_aside dir (baseName_temporary_ne path)

lemma isWritten_of_makes {d₁ : Disk} {v : Json} (hmade : d.Makes d₁ dir) (hinto : d₁.LeadsInto path dir)
    (hc : IsName (baseName path)) (hloc : d.origin path ++ Disk.steps (parent path) = dir)
    (hname : ¬d₁.root.HasDir (dir ++ [baseName path]))
    (htmp : ¬d₁.root.HasDir (dir ++ [baseName (temporary path)])) :
    IsWritten d (settled d₁ dir path (documentBytes v)) path v := by
  obtain ⟨hfile, haside⟩ := locate_eq hloc hc
  obtain ⟨hinto', hfind, hnone⟩ := leadsInto_settled hinto (documentBytes v) hname htmp
  have hplace := (leadsInto_temporary hinto' (Disk.ne_nil_of_baseName hc)).place_of_none
    (isName_temporary path) hnone
  refine ⟨hmade.here, ?_, ?_, ?_, ?_, ?_, ?_⟩
  · exact Disk.read_of_place (hinto'.place_of_find? hc hfind)
  · rw [hfile]
    exact hfind
  · rw [Disk.exists?, Disk.node?, hplace]
    rfl
  · rw [haside]
    exact hnone
  · intro l hl hne
    rw [hfile] at hl hne
    have hl' := (List.prefix_concat_iff.mp hl).resolve_left hne
    exact ⟨hinto'.hasDir.of_prefix hl', hmade.above l hl'⟩
  · intro l hl hne
    rw [hfile] at hl
    rw [haside] at hne
    have hbelow : ∀ c, ¬d₁.root.HasDir (dir ++ [c]) → dir ++ [c] <+: l → l ≠ dir ++ [c] →
        d.root.find? l = none := by
      intro c hnot hk hlc
      rw [Node.HasDir, hmade.find?_concat, ← Node.HasDir] at hnot
      exact find?_below hnot hk hlc
    by_cases hunder : dir ++ [baseName path] <+: l
    · have hlne : l ≠ dir ++ [baseName path] := by
        rintro rfl
        exact hl List.prefix_rfl
      obtain ⟨r, rfl⟩ := hunder
      rw [hbelow _ hname (List.prefix_append _ r) hlne]
      exact Node.find?_below_file hfind (by simpa using hlne)
    · by_cases haunder : dir ++ [baseName (temporary path)] <+: l
      · rw [hbelow _ htmp haunder hne]
        obtain ⟨r, rfl⟩ := haunder
        exact Node.find?_eq_none_of_append hnone r
      · have hldir : ¬l <+: dir := fun h => hl (h.trans (List.prefix_append _ _))
        rw [settled, Disk.find?_setMember_other hldir hunder, Disk.find?_dropMember_other hldir haunder,
          hmade.others l hldir]

lemma isUntouched_self (h : IsPrevented d path) : IsUntouched d d path :=
  ⟨Or.inl rfl, rfl, h⟩

lemma isUntouched_dropMember (hinto : d.LeadsInto path dir) (hc : IsName (baseName path))
    (hloc : d.origin path ++ Disk.steps (parent path) = dir)
    (hname : d.root.HasDir (dir ++ [baseName path]))
    (htmp : ¬d.root.HasDir (dir ++ [baseName (temporary path)])) :
    IsUntouched d (d.dropMember dir (baseName (temporary path))) path := by
  obtain ⟨hfile, haside⟩ := locate_eq hloc hc
  have hsame : (d.dropMember dir (baseName (temporary path))).root.find? (dir ++ [baseName path]) =
      d.root.find? (dir ++ [baseName path]) := by
    apply Disk.find?_dropMember_other (not_prefix_concat dir _)
    exact not_prefix_aside dir (baseName_temporary_ne path).symm
  have hprevented : IsPrevented d path := Or.inr (Or.inr (Or.inl (by rwa [hfile])))
  refine ⟨?_, ?_, hprevented⟩
  · cases hn : d.root.find? (dir ++ [baseName (temporary path)]) with
    | none => exact Or.inl (Disk.dropMember_self hn)
    | some node =>
      cases node with
      | dir members => exact (htmp ⟨members, hn⟩).elim
      | file bytes =>
        rw [haside]
        exact Or.inr ⟨⟨bytes, hn⟩, (Disk.dropAt_concat _).symm⟩
  · have hinto' := hinto.of_keepsDirs (Disk.keepsDirs_dropMember htmp) rfl
    obtain ⟨members, hm⟩ := hname
    rw [Disk.read, Disk.read, hinto.place_of_find? hc hm, hinto'.place_of_find? hc (hsame.trans hm)]

def IsAtomic (d : Disk) (path : Text) (v : Json) : Disk × Except Disk.Error Unit → Prop
  | (d', .ok ()) => IsWritten d d' path v
  | (d', .error _) => IsUntouched d d' path

lemma isAtomic_of_leadsInto (v : Json) (hinto : d.LeadsInto path dir) (hc : IsName (baseName path))
    (hloc : d.origin path ++ Disk.steps (parent path) = dir) :
    IsAtomic d path v (match writeAside d path (documentBytes v) with
      | (d', .ok ()) => (d', .ok ())
      | (d', .error e) => ((cleanUp d' path).value, .error e)) := by
  by_cases htmp : d.root.HasDir (dir ++ [baseName (temporary path)])
  · have hne := Disk.ne_nil_of_baseName hc
    have hwrite := (leadsInto_temporary hinto hne).write_of_hasDir (isName_temporary path)
      (documentBytes v) htmp
    rw [writeAside_of_write_error hwrite]
    dsimp only
    rw [cleanUp_of_write_error hwrite]
    exact isUntouched_self (Or.inr (Or.inr (Or.inr (by rwa [(locate_eq hloc hc).2]))))
  · by_cases hname : d.root.HasDir (dir ++ [baseName path])
    · obtain ⟨e, haside⟩ := writeAside_of_hasDir hinto hc (documentBytes v) htmp hname
      rw [haside]
      dsimp only
      rw [cleanUp_setMember hinto hc (documentBytes v) htmp]
      exact isUntouched_dropMember hinto hc hloc hname htmp
    · rw [writeAside_eq hinto hc (documentBytes v) htmp hname]
      exact isWritten_of_makes (Disk.makes_self hinto.hasDir) hinto hc hloc hname htmp

lemma exists_write_error (h : ∀ k members, Disk.walk d (d.origin path) (Disk.steps (parent path)) ≠
      .ok (.taken k (.dir members))) (hne : path ≠ []) (bytes : List UInt8) :
    ∃ e, d.write (temporary path) bytes = .error e := by
  cases hwrite : d.write (temporary path) bytes with
  | error e => exact ⟨e, rfl⟩
  | ok d' =>
    obtain ⟨p, _, _, hwalk, _, _⟩ := Disk.exists_of_write hwrite
    rw [Disk.steps_parent (isName_temporary path).ne_nil, parent_temporary] at hwalk
    obtain ⟨k, members, hk, _⟩ := Disk.exists_of_walk_append hwalk (by simp)
    rw [temporary, Disk.origin_eq_of_head (List.head?_append_of_ne_nil path hne)] at hk
    exact (h k members hk).elim

end Placed

section Spell

variable {d : Disk} {r : Nat} {cs : List Text} {c : Text}
variable (hr : r ≤ 1) (hcs : ∀ x ∈ cs, IsName x) (hc : IsName c)

include hr hcs hc

lemma origin_append_steps :
    d.origin (spell r (cs ++ [c])) ++ Disk.steps (parent (spell r (cs ++ [c]))) = d.base r ++ cs := by
  rw [Disk.origin_spell hr (Path.forall_isName_concat hcs hc), Path.parent_spell r hcs hc,
    Disk.steps_spell hcs]

lemma isPrevented_of_isBlocked (h : d.IsBlocked r cs) : IsPrevented d (spell r (cs ++ [c])) := by
  have hname := Path.isName_baseName_spell r cs hc
  rcases h with hstart | ⟨k, bytes, hk, hfile⟩
  · exact Or.inl (by rwa [Disk.origin_spell hr (Path.forall_isName_concat hcs hc)])
  · refine Or.inr (Or.inl ⟨k, bytes, ?_, hfile⟩)
    rwa [(locate_eq (origin_append_steps hr hcs hc) hname).1, List.dropLast_concat]

variable (v : Json)

lemma isAtomic_of_hasDir (h : d.root.HasDir (d.base r ++ cs)) :
    IsAtomic d (spell r (cs ++ [c])) v (writeJson d (spell r (cs ++ [c])) v).value := by
  have hname := Path.isName_baseName_spell r cs hc
  have hmade : (if parent (spell r (cs ++ [c])) = [] then (d, .ok ())
      else d.makeDirs (parent (spell r (cs ++ [c])))) = (d, .ok ()) := by
    rw [Path.parent_spell r hcs hc]
    split
    · rfl
    · rename_i hne
      exact Disk.makeDirs_of_isDir (Disk.isDir_spell hr hcs hne h)
  rw [value_writeJson, hmade]
  exact isAtomic_of_leadsInto v (Disk.leadsInto_spell hr hcs hc h) hname
    (origin_append_steps hr hcs hc)

lemma isAtomic_of_nil (h : ¬d.root.HasDir (d.base r ++ cs)) (hnil : spell r cs = []) :
    IsAtomic d (spell r (cs ++ [c])) v (writeJson d (spell r (cs ++ [c])) v).value := by
  have hname := Path.isName_baseName_spell r cs hc
  have hwalk : ∀ k members, Disk.walk d (d.origin (spell r (cs ++ [c])))
      (Disk.steps (parent (spell r (cs ++ [c])))) ≠ .ok (.taken k (.dir members)) := by
    intro k members hk
    rw [Disk.origin_spell hr (Path.forall_isName_concat hcs hc),
      Path.parent_spell r hcs hc, Disk.steps_spell hcs] at hk
    have hend : k = d.base r ++ cs := Disk.location_of_walk_names hcs hk
    exact h ⟨members, hend ▸ Disk.isOn_of_walk hk⟩
  obtain ⟨e, hwrite⟩ := exists_write_error hwalk (Disk.ne_nil_of_baseName hname) (documentBytes v)
  rw [value_writeJson, Path.parent_spell r hcs hc, if_pos hnil]
  dsimp only
  rw [writeAside_of_write_error hwrite]
  dsimp only
  rw [cleanUp_of_write_error hwrite]
  obtain ⟨rfl, rfl⟩ := (Path.spell_eq_nil hcs).mp hnil
  rw [List.append_nil] at h
  exact isUntouched_self (isPrevented_of_isBlocked hr hcs hc (Or.inl h))

lemma isAtomic_of_makes {d₁ : Disk} (h : ¬d.root.HasDir (d.base r ++ cs))
    (hmade : d.Makes d₁ (d.base r ++ cs)) :
    IsAtomic d (spell r (cs ++ [c])) v (match writeAside d₁ (spell r (cs ++ [c])) (documentBytes v) with
      | (d', .ok ()) => (d', .ok ())
      | (d', .error e) => ((cleanUp d' (spell r (cs ++ [c]))).value, .error e)) := by
  have hname := Path.isName_baseName_spell r cs hc
  have hbase : d₁.base r = d.base r := by rw [Disk.base, Disk.base, hmade.here]
  have hinto : d₁.LeadsInto (spell r (cs ++ [c])) (d.base r ++ cs) := by
    rw [← hbase]
    exact Disk.leadsInto_spell hr hcs hc (by rw [hbase]; exact hmade.hasDir)
  have hfree : ∀ x, ¬d₁.root.HasDir (d.base r ++ cs ++ [x]) := by
    intro x hx
    rw [Node.HasDir, hmade.find?_concat, find?_below h (List.prefix_append _ _) (by simp)] at hx
    obtain ⟨members, hm⟩ := hx
    simp at hm
  rw [writeAside_eq hinto hname (documentBytes v) (hfree _) (hfree _)]
  exact isWritten_of_makes hmade hinto hname (origin_append_steps hr hcs hc) (hfree _) (hfree _)

lemma isAtomic_of_not_hasDir (h : ¬d.root.HasDir (d.base r ++ cs)) :
    IsAtomic d (spell r (cs ++ [c])) v (writeJson d (spell r (cs ++ [c])) v).value := by
  by_cases hnil : spell r cs = []
  · exact isAtomic_of_nil hr hcs hc v h hnil
  · have hattempt := Disk.isAttempt_makeDirs (d := d) hr hcs hnil
    rw [value_writeJson, Path.parent_spell r hcs hc, if_neg hnil]
    cases hmakes : d.makeDirs (spell r cs) with
    | mk d₁ made =>
      rw [hmakes] at hattempt
      cases made with
      | ok made => exact isAtomic_of_makes hr hcs hc v h hattempt
      | error e =>
        obtain ⟨rfl, hblocked⟩ := hattempt
        exact isUntouched_self (isPrevented_of_isBlocked hr hcs hc hblocked)

end Spell

lemma isAtomic_writeJson (d : Disk) {path : Text} (h : IsPlain path) (v : Json) :
    IsAtomic d path v (writeJson d path v).value := by
  obtain ⟨r, cs, c, hr, hcs, hc, rfl⟩ := h.exists_spell
  by_cases hdir : d.root.HasDir (d.base r ++ cs)
  · exact isAtomic_of_hasDir hr hcs hc v hdir
  · exact isAtomic_of_not_hasDir hr hcs hc v hdir

end Storage

end SketchBuild
