import SketchBuild.Proofs.Properties.Settled

namespace SketchBuild.Properties

open Json (Members)

def maintained : List Text :=
  ["name", "includePath", "compilerPath", "compileCommands", "defines", "cStandard", "cppStandard",
    "intelliSenseMode"]

/-- Where the target is among some configurations, and the members that it has: it is the first one of
the right name, or a single one without a name, or a new one behind them. -/
inductive IsChosen (items : List Json) : Nat → Members → Prop
  | named {i : Nat} {members : Members} : items[i]? = some (.obj members) → IsNamed members →
      (∀ j < i, ∀ other, items[j]? = some (.obj other) → ¬IsNamed other) → IsChosen items i members
  | single {members : Members} : items = [.obj members] → IsUnnamed members → IsChosen items 0 members
  | new : (∀ members, .obj members ∈ items → ¬IsNamed members) →
      (∀ members, items = [.obj members] → ¬IsUnnamed members) → IsChosen items items.length []

/-- The texts of a list of paths; anything else lists none. -/
inductive IsListing : Option Json → List Text → Prop
  | list (items : List Json) : IsListing (some (.arr items)) (items.map Json.plain)
  | none {v : Option Json} (h : ∀ items, v ≠ some (.arr items)) : IsListing v []

def stillThere (d : Disk) (listed : List Text) : List Text :=
  listed.filter fun path => globBase path ≠ [] && d.exists? (globBase path)

structure KeepsTarget (d : Disk) (u : Update) (old new : Members) : Prop where
  name : IsNamed new
  others : ∀ key ∉ maintained, Members.get? key new = Members.get? key old
  order : Table.keys old <+: Table.keys new
  defines : ∀ items, Members.get? "defines" old = some (.arr items) →
    Members.get? "defines" new = some (.arr items)
  mode : ∀ v, Members.get? "intelliSenseMode" old = some v →
    Members.get? "intelliSenseMode" new = some v
  standards : ∀ listed, IsListing (Members.get? "includePath" old) listed →
    isEsp (if u.reset then [] else stillThere d listed) u new = false →
      ∀ key ∈ (["cStandard", "cppStandard"] : List Text), ∀ v, Members.get? key old = some v →
        Members.get? key new = some v
  paths : u.finalize = false → u.reset = false →
    ∀ listed, IsListing (Members.get? "includePath" old) listed → ∀ kept, kept = stillThere d listed →
      Members.get? "includePath" new =
        some (.arr ((kept ++ (u.given.filter (· ∉ kept)).eraseDups).map .str))

structure KeepsDocument (d : Disk) (u : Update) (items : List Json) (old new : Members) : Prop where
  others : ∀ key : Text, key ≠ "version" → key ≠ "configurations" → Members.get? key new = Members.get? key old
  version : Members.get? "version" new = some ((Members.get? "version" old).getD (.int 4))
  order : Table.keys new =
    if ("version" : Text) ∈ Table.keys old then Table.keys old else Table.keys old ++ [("version" : Text)]
  target : ∃ i before items' after, IsChosen items i before ∧
    Members.get? "configurations" new = some (.arr items') ∧ items'[i]? = some (.obj after) ∧
    (∀ j, j ≠ i → items'[j]? = items[j]?) ∧ KeepsTarget d u before after

section Choice

variable {items : List Json}

lemma getElem?_append_cons_congr {before : List Json} {j : Nat} (h : j ≠ before.length) (c c' : Json)
    (after : List Json) :
    (before ++ c :: after)[j]? = (before ++ c' :: after)[j]? := by
  rcases Nat.lt_or_gt_of_ne h with hlt | hgt
  · rw [List.getElem?_append_left hlt, List.getElem?_append_left hlt]
  · obtain ⟨k, rfl⟩ := Nat.exists_eq_add_of_lt hgt
    rw [List.getElem?_append_right (by omega), List.getElem?_append_right (by omega)]
    simp [Nat.add_assoc]

lemma not_isNamed_of_isTarget {members : Members} (h : isTarget (.obj members) = false) :
    ¬IsNamed members := by
  intro hnamed
  simp [isTarget_obj.mpr hnamed] at h

lemma exists_isChosen (items : List Json) :
    ∃ i before, IsChosen items i before ∧
      (target items).2.1 = Members.set "name" (.str configurationName) before ∧
      ∀ c, ((target items).1 ++ c :: (target items).2.2)[i]? = some c ∧
        ∀ j, j ≠ i → ((target items).1 ++ c :: (target items).2.2)[j]? = items[j]? := by
  rcases dropWhile_isTarget items with ⟨members, rest, hdrop, hnamed⟩ | hdrop
  · have hitems : items.takeWhile (!isTarget ·) ++ .obj members :: rest = items := by
      rw [← hdrop, List.takeWhile_append_dropWhile]
    have hat : (items.takeWhile (!isTarget ·) ++ .obj members :: rest)[
        (items.takeWhile (!isTarget ·)).length]? = some (.obj members) := by simp
    rw [target_of_dropWhile hdrop]
    refine ⟨(items.takeWhile (!isTarget ·)).length, members, ?_, (set_self hnamed).symm, ?_⟩
    · refine .named (by rwa [hitems] at hat) hnamed ?_
      intro j hj other hother
      rw [← hitems, List.getElem?_append_left hj] at hother
      have hmem := List.mem_takeWhile_imp (List.mem_of_getElem? hother)
      exact not_isNamed_of_isTarget (by simpa using hmem)
    · intro c
      refine ⟨by simp, fun j hj => ?_⟩
      rw [getElem?_append_cons_congr hj c (.obj members) rest, hitems]
  · have hnone : ∀ members, .obj members ∈ items → ¬IsNamed members := by
      intro members hmembers
      exact not_isNamed_of_isTarget (by simpa using List.dropWhile_eq_nil_iff.mp hdrop _ hmembers)
    -- without a named one the target gets its name, be it new or the one that is there
    rcases target_of_none hdrop with ⟨hnamed, htarget⟩ | ⟨members, hitems, hunnamed, htarget⟩
    · rw [htarget]
      refine ⟨items.length, [], .new hnone hnamed, rfl, fun c => ⟨by simp, fun j hj => ?_⟩⟩
      rcases Nat.lt_or_gt_of_ne hj with hlt | hgt
      · exact List.getElem?_append_left hlt
      · rw [List.getElem?_eq_none (by simp; omega), List.getElem?_eq_none (Nat.le_of_lt hgt)]
    · rw [htarget]
      refine ⟨0, members, .single hitems hunnamed, rfl, fun c => ⟨rfl, fun j hj => ?_⟩⟩
      rw [hitems]
      exact @getElem?_append_cons_congr [] j hj c _ []

end Choice

section Target

variable {d : Disk} {u : Update} {members old : Members}

lemma keys_prefix_set (name : Text) (v : Json) (members : Members) :
    Table.keys members <+: Table.keys (Members.set name v members) := Table.keys_prefix_alter name _ members

lemma keys_prefix_setNew (name : Text) (v : Json) (members : Members) :
    Table.keys members <+: Table.keys (Members.setNew name v members) :=
  Table.keys_prefix_alter name _ members

lemma keys_prefix_putFilled (name : Text) (value : Option Text) (members : Members) :
    Table.keys members <+: Table.keys (putFilled name value members) := by
  rw [putFilled.eq_def]
  split
  · exact List.prefix_rfl
  · exact List.prefix_rfl
  · exact keys_prefix_set name _ members

lemma keys_prefix_setCompiler (u : Update) (members : Members) :
    Table.keys members <+: Table.keys (setCompiler u members) := by
  have hfilled := (keys_prefix_putFilled "compilerPath" u.compilerPath members).trans
    (keys_prefix_putFilled "compileCommands" u.compileCommands _)
  rw [setCompiler]
  split
  · exact hfilled
  · exact hfilled.trans (keys_prefix_set _ _ _)

lemma keys_prefix_setDialect (esp : Bool) (members : Members) :
    Table.keys members <+: Table.keys (setDialect esp members) := by
  rw [setDialect]
  refine List.IsPrefix.trans ?_ (keys_prefix_setNew _ _ _)
  split
  · exact (keys_prefix_set _ _ _).trans (keys_prefix_set _ _ _)
  · exact (keys_prefix_setNew _ _ _).trans (keys_prefix_setNew _ _ _)

lemma keys_prefix_updateTarget (d : Disk) (u : Update) (members : Members) :
    Table.keys members <+: Table.keys (updateTarget d u members) := by
  rw [updateTarget]
  exact ((keys_prefix_setCompiler u members).trans (keys_prefix_setDialect _ _)).trans
    (keys_prefix_set _ _ _)

lemma get?_updateTarget_other {key : Text} (h : key ∉ maintained) :
    Members.get? key (updateTarget d u members) = Members.get? key members := by
  simp only [maintained, List.mem_cons, List.not_mem_nil, or_false, not_or] at h
  obtain ⟨_, hpaths, hcompiler, hcommands, hdefines, hc, hcpp, hmode⟩ := h
  have hdialect : key ∉ (["cStandard", "cppStandard", "intelliSenseMode"] : List Text) := by
    simp only [List.mem_cons, List.not_mem_nil, or_false, not_or]
    exact ⟨hc, hcpp, hmode⟩
  have hkept : key ∉ (["compilerPath", "compileCommands", "defines"] : List Text) := by
    simp only [List.mem_cons, List.not_mem_nil, or_false, not_or]
    exact ⟨hcompiler, hcommands, hdefines⟩
  rw [get?_updateTarget_of_ne hpaths, get?_setDialect_other hdialect, get?_setCompiler_other hkept]

lemma get?_setCompiler_defines {items : List Json} (h : Members.get? "defines" members = some (.arr items)) :
    Members.get? "defines" (setCompiler u members) = some (.arr items) := by
  have hfilled : Members.get? "defines" (putFilled "compileCommands" u.compileCommands
      (putFilled "compilerPath" u.compilerPath members)) = some (.arr items) := by
    rw [get?_putFilled_other (by decide), get?_putFilled_other (by decide), h]
  rw [setCompiler]
  simp only [hfilled]

lemma get?_setDialect_mode {esp : Bool} {v : Json} (h : Members.get? "intelliSenseMode" members = some v) :
    Members.get? "intelliSenseMode" (setDialect esp members) = some v := by
  rw [setDialect, get?_setNew, if_pos rfl]
  split
  · rw [get?_set, if_neg (by decide), get?_set, if_neg (by decide), h]
    rfl
  · rw [get?_setNew, if_neg (by decide), get?_setNew, if_neg (by decide), h]
    rfl

lemma get?_setDialect_standard {key : Text} (hkey : key ∈ (["cStandard", "cppStandard"] : List Text)) {v : Json}
    (h : Members.get? key members = some v) :
    Members.get? key (setDialect false members) = some v := by
  simp only [List.mem_cons, List.not_mem_nil, or_false] at hkey
  rw [setDialect, get?_setNew, if_neg (by rcases hkey with rfl | rfl <;> decide)]
  rcases hkey with rfl | rfl
  · rw [if_neg (by decide), get?_setNew, if_neg (by decide), get?_setNew, if_pos rfl, h]
    rfl
  · rw [if_neg (by decide), get?_setNew, if_pos rfl, get?_setNew, if_neg (by decide), h]
    rfl

lemma listedPaths_eq {listed : List Text} (h : IsListing (Members.get? "includePath" members) listed) :
    listedPaths members = listed := by
  rw [listedPaths]
  generalize Members.get? "includePath" members = v at h
  cases h with
  | list items => rfl
  | none h =>
    split
    · rename_i items
      exact (h items rfl).elim
    · rfl

lemma existingPaths_eq {listed : List Text}
    (h : IsListing (Members.get? "includePath" members) listed) (reset : Bool) :
    existingPaths d reset members = if reset then [] else stillThere d listed := by
  rw [existingPaths, listedPaths_eq h]
  rfl

lemma listedPaths_congr {members' : Members}
    (h : Members.get? "includePath" members' = Members.get? "includePath" members) :
    listedPaths members' = listedPaths members := by
  rw [listedPaths, listedPaths, h]

lemma isEsp_congr {members' : Members} (existing : List Text)
    (h : Members.get? "compilerPath" members' = Members.get? "compilerPath" members) :
    isEsp existing u members' = isEsp existing u members := by
  rw [isEsp, isEsp, h]

lemma newPaths_eq (hf : u.finalize = false) (existing : List Text) :
    newPaths existing u = existing ++ (u.given.filter (· ∉ existing)).eraseDups := by
  rw [newPaths, hf, if_neg (by simp), addNew_eq, Update.given]

lemma keepsTarget_updateTarget (d : Disk) (u : Update) (old : Members) :
    KeepsTarget d u old (updateTarget d u (Members.set "name" (.str configurationName) old)) := by
  set named := Members.set "name" (.str configurationName) old with hnamed
  have hother : ∀ key : Text, key ≠ "name" → Members.get? key named = Members.get? key old := by
    intro key hkey
    rw [hnamed, get?_set, if_neg (Ne.symm hkey)]
  have hlisted : listedPaths named = listedPaths old := listedPaths_congr (hother _ (by decide))
  have hexisting : existingPaths d u.reset named = existingPaths d u.reset old := by
    rw [existingPaths, existingPaths, hlisted]
  refine ⟨?_, ?_, ?_, ?_, ?_, ?_, ?_⟩
  · exact isNamed_updateTarget ((get?_set _ _ _ _).trans (if_pos rfl))
  · intro key hkey
    rw [get?_updateTarget_other hkey, hother]
    rintro rfl
    exact hkey (by decide)
  · exact (keys_prefix_set _ _ _).trans (keys_prefix_updateTarget d u named)
  · intro items hitems
    rw [get?_updateTarget_compiler (by simp)]
    exact get?_setCompiler_defines ((hother _ (by decide)).trans hitems)
  · intro v hv
    rw [get?_updateTarget_dialect (by simp)]
    apply get?_setDialect_mode
    rw [get?_setCompiler_other (by decide), hother _ (by decide), hv]
  · intro listed hlist hesp key hkey v hv
    rw [← existingPaths_eq hlist] at hesp
    have hcompiler : Members.get? "compilerPath" (updateTarget d u named) =
        Members.get? "compilerPath" (setCompiler u named) := get?_updateTarget_compiler (by simp)
    rw [isEsp_congr _ hcompiler, ← hexisting] at hesp
    rw [get?_updateTarget_dialect (by simp at hkey ⊢; tauto), hesp]
    apply get?_setDialect_standard hkey
    simp only [List.mem_cons, List.not_mem_nil, or_false] at hkey
    rw [get?_setCompiler_other (by rcases hkey with rfl | rfl <;> decide),
      hother _ (by rcases hkey with rfl | rfl <;> decide), hv]
  · rintro hf hr listed hlist kept rfl
    have hkept := existingPaths_eq (d := d) hlist u.reset
    rw [hr, if_neg (by simp)] at hkept
    rw [← newPaths_eq hf, ← hkept, updateTarget, get?_set, if_pos rfl, hexisting, hr]

end Target

section Document

variable {d : Disk} {path : Text} {u : Update} {members : Members} {items : List Json}

lemma shape_of_list (hc : Members.get? "configurations" members = some (.arr items)) :
    shape (.obj members) = (Members.setNew "version" (.int 4) members, items) := by
  have hitems : Members.get? "configurations" (Members.setNew "version" (.int 4) members) =
      some (.arr items) := by
    rw [get?_setNew, if_neg (by decide), hc]
  rw [shape.eq_def]
  simp only [hitems]

lemma keys_setNew (name : Text) (v : Json) (members : Members) :
    Table.keys (Members.setNew name v members) =
      if name ∈ Table.keys members then Table.keys members else Table.keys members ++ [name] :=
  (Table.keys_alter name _ members).trans (by congr)

lemma keepsDocument_updated (d : Disk) (u : Update)
    (hc : Members.get? "configurations" members = some (.arr items)) :
    ∃ new, updated d u (.obj members) = .obj new ∧ KeepsDocument d u items members new := by
  obtain ⟨i, old, hchosen, hold, hplace⟩ := exists_isChosen items
  have hshape := shape_of_list hc
  set shaped := Members.setNew "version" (.int 4) members with hshaped
  set after := updateTarget d u (Members.set "name" (.str configurationName) old)
  set items' := (target items).1 ++ .obj after :: (target items).2.2 with hitems'
  have hkey : ("configurations" : Text) ∈ Table.keys shaped := by
    rw [Table.mem_keys_iff]
    change (Members.get? "configurations" shaped).isSome = true
    rw [hshaped, get?_setNew, if_neg (by decide), hc]
    rfl
  refine ⟨Members.set "configurations" (.arr items') shaped, ?_, ?_, ?_, ?_, ?_⟩
  · rw [updated_eq, withConfig, config, hshape, hold]
  · intro key hversion hconfigurations
    rw [get?_set, if_neg (Ne.symm hconfigurations), hshaped, get?_setNew, if_neg (Ne.symm hversion)]
  · rw [get?_set, if_neg (by decide), hshaped, get?_setNew, if_pos rfl]
  · rw [← keys_setNew "version" (.int 4) members]
    exact (Table.keys_alter _ _ _).trans (if_pos hkey)
  · refine ⟨i, old, items', after, hchosen, ?_, (hplace _).1, (hplace _).2, keepsTarget_updateTarget d u old⟩
    rw [get?_set, if_pos rfl]

/-- An update leaves a document that keeps what is not its own. It fails only where a directory is in the
place of the temporary file, and then nothing changes. -/
theorem update_keeps (d : Disk) (path : Text) (u : Update) (members : Members) (items : List Json)
    (h : Storage.document d path = .ok (.value (.obj members)))
    (hc : Members.get? "configurations" members = some (.arr items)) :
    (∃ d' written new, (update d path u).value = (d', .ok written) ∧
        Storage.document d' path = .ok (.value (.obj new)) ∧ KeepsDocument d u items members new) ∨
      d.isDir (Storage.temporary path) = true ∧
        ∃ reason, (update d path u).value = (d, .error (.unwritable reason)) := by
  obtain ⟨new, hnew, hkeeps⟩ := keepsDocument_updated d u hc
  rw [value_update_of_document h, outcome, hnew]
  by_cases hsame : Json.obj members = .obj new
  · rw [if_pos hsame]
    exact Or.inl ⟨d, false, new, rfl, by rw [h, hsame], hkeeps⟩
  · rw [if_neg hsame]
    have hdocument : (Json.obj new).IsDocument := by
      rw [← hnew]
      exact isDocument_updated d u (Storage.isDocument_of_document h)
    cases hread : d.read path with
    | error e =>
      obtain ⟨reason, hunusable⟩ := Storage.document_of_read_error hread
      simp [hunusable] at h
    | ok bytes =>
      rcases Storage.writeJson_of_read hread (.obj new) with ⟨d', hwrite⟩ | ⟨htmp, reason, hwrite⟩
      · rw [hwrite]
        exact Or.inl ⟨d', true, new, rfl, document_of_writeJson hdocument hwrite, hkeeps⟩
      · rw [hwrite]
        exact Or.inr ⟨htmp, reason, rfl⟩

section Sample

def editedItems : List Json :=
  [.obj [("name", .str "Other")],
    .obj [("name", .str configurationName),
      ("includePath", .arr [.str "/p/**", .str "/gone", .int 7, .str "/p"]),
      ("defines", .arr [.str "X"]), ("cStandard", .str "c99"), ("mine", .bool true),
      ("intelliSenseMode", .str "clang-x64")]]

def editedMembers : Members := [("env", .null), ("configurations", .arr editedItems)]

theorem update_keeps_sample :
    let d := propertiesDisk (some (.obj editedMembers))
    let target : Members := [("name", .str configurationName),
      ("includePath", .arr [.str "/p/**", .str "/p", .str "/gone"]),
      ("defines", .arr [.str "X"]), ("cStandard", .str "c99"), ("mine", .bool true),
      ("intelliSenseMode", .str "clang-x64"), ("cppStandard", .str "c++17")]
    let new : Members := [("env", .null),
      ("configurations", .arr [.obj [("name", .str "Other")], .obj target]), ("version", .int 4)]
    Storage.document d "/c" = .ok (.value (.obj editedMembers)) ∧
      Members.get? "configurations" editedMembers = some (.arr editedItems) ∧
      ∃ d', (update d "/c" goneUpdate).value = (d', .ok true) ∧
        Storage.document d' "/c" = .ok (.value (.obj new)) ∧
        KeepsDocument d goneUpdate editedItems editedMembers new := by
  intro d target new
  have hdocument : Storage.document d "/c" = .ok (.value (.obj editedMembers)) := by decide +kernel
  have htmp : d.isDir (Storage.temporary "/c") = false := by decide +kernel
  have hwritten : (update d "/c" goneUpdate).value.2 = .ok true := by decide +kernel
  have hnew : Storage.document (update d "/c" goneUpdate).value.1 "/c" = .ok (.value (.obj new)) := by
    decide +kernel
  rcases update_keeps d "/c" goneUpdate editedMembers editedItems hdocument rfl with
    ⟨d', written, new', hupdate, hafter, hkeeps⟩ | ⟨hdir, _⟩
  · rw [hupdate] at hwritten hnew
    obtain rfl := Except.ok.inj hwritten
    obtain rfl := Json.obj.inj (Storage.Document.value.inj (Except.ok.inj (hafter.symm.trans hnew)))
    exact ⟨hdocument, rfl, d', hupdate, hafter, hkeeps⟩
  · exact Bool.noConfusion (htmp.symm.trans hdir)

end Sample

end Document

end SketchBuild.Properties
