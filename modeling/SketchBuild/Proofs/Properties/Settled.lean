import SketchBuild.Proofs.Properties.Again
import SketchBuild.Proofs.Disk.Overwrite
import SketchBuild.Proofs.Storage.Reading
import SketchBuild.Proofs.Storage.Rewriting

namespace SketchBuild.Properties

open Json (Members)

section Documents

variable {members : Members} {name : Text} {v : Json}

lemma isDocument_set (h : Json.IsDocument (.obj members)) (name : Text) (hv : v.IsDocument) :
    Json.IsDocument (.obj (Members.set name v members)) := by
  cases h with
  | obj _ hk hm => exact .obj _ (Table.nodup_keys_alter hk name _) (Table.forall_put hm name hv)

lemma isDocument_setNew (h : Json.IsDocument (.obj members)) (name : Text) (hv : v.IsDocument) :
    Json.IsDocument (.obj (Members.setNew name v members)) := by
  cases h with
  | obj _ hk hm =>
    refine .obj _ (Table.nodup_keys_alter hk name _) (Table.forall_alter hm name ?_)
    intro o ho
    cases o with
    | none => exact hv
    | some w => exact ho w rfl

lemma isDocument_get? (h : Json.IsDocument (.obj members)) (hv : Members.get? name members = some v) :
    v.IsDocument := by
  cases h with
  | obj _ _ hm => exact Table.of_find? hm hv

lemma isDocument_putFilled (h : Json.IsDocument (.obj members)) (name : Text) (value : Option Text) :
    Json.IsDocument (.obj (putFilled name value members)) := by
  rw [putFilled.eq_def]
  split
  · exact h
  · exact h
  · exact isDocument_set h name (.str _)

lemma isDocument_updateTarget (d : Disk) (u : Update) (h : Json.IsDocument (.obj members)) :
    Json.IsDocument (.obj (updateTarget d u members)) := by
  have hcompiler : Json.IsDocument (.obj (setCompiler u members)) := by
    have hfilled := isDocument_putFilled (isDocument_putFilled h "compilerPath" u.compilerPath)
      "compileCommands" u.compileCommands
    rw [setCompiler]
    split
    · exact hfilled
    · exact isDocument_set hfilled "defines" (.arr [] (by simp))
  rw [updateTarget]
  apply isDocument_set
  · rw [setDialect]
    apply isDocument_setNew _ _ (.str _)
    split
    · exact isDocument_set (isDocument_set hcompiler "cStandard" (.str _)) "cppStandard" (.str _)
    · exact isDocument_setNew (isDocument_setNew hcompiler "cStandard" (.str _)) "cppStandard" (.str _)
  · exact .arr_map fun p _ => .str p

lemma isDocument_nil : Json.IsDocument (.obj []) := .obj [] List.nodup_nil (by simp)

lemma exists_shape_eq (h : v.IsDocument) :
    ∃ members, shape v = shape (.obj members) ∧ Json.IsDocument (.obj members) := by
  cases v with
  | obj members => exact ⟨members, rfl, h⟩
  | _ => exact ⟨[], rfl, isDocument_nil⟩

lemma isDocument_shape (h : v.IsDocument) :
    Json.IsDocument (.obj (shape v).1) ∧ ∀ c ∈ (shape v).2, c.IsDocument := by
  obtain ⟨members, hshape, hmembers⟩ := exists_shape_eq h
  have hversion := isDocument_setNew hmembers "version" (.int 4 (by decide))
  rw [hshape, shape.eq_def]
  dsimp only
  split
  · rename_i items hitems
    cases isDocument_get? hversion hitems with
    | arr _ hall => exact ⟨hversion, hall⟩
  · exact ⟨isDocument_set hversion "configurations" (.arr [] (by simp)), by simp⟩

lemma isDocument_target {configurations : List Json} (h : ∀ c ∈ configurations, c.IsDocument) :
    (∀ c ∈ (target configurations).1, c.IsDocument) ∧
      Json.IsDocument (.obj (target configurations).2.1) ∧
      ∀ c ∈ (target configurations).2.2, c.IsDocument := by
  have hnew : Json.IsDocument (.obj [("name", .str configurationName)]) :=
    isDocument_set isDocument_nil "name" (.str configurationName)
  rcases dropWhile_isTarget configurations with ⟨members, rest, hdrop, _⟩ | hdrop
  · have hsuffix := List.dropWhile_suffix (!isTarget ·) (l := configurations)
    rw [hdrop] at hsuffix
    rw [target_of_dropWhile hdrop]
    exact ⟨fun c hc => h c (List.takeWhile_subset _ hc), h _ (hsuffix.subset List.mem_cons_self),
      fun c hc => h c (hsuffix.subset (List.mem_cons_of_mem _ hc))⟩
  · rcases target_of_none hdrop with ⟨_, htarget⟩ | ⟨members, rfl, _, htarget⟩
    · rw [htarget]
      exact ⟨h, hnew, by simp⟩
    · rw [htarget]
      exact ⟨by simp, isDocument_set (h _ (by simp)) "name" (.str _), by simp⟩

lemma isDocument_updated (d : Disk) (u : Update) (h : v.IsDocument) : (updated d u v).IsDocument := by
  obtain ⟨hmembers, hconfigurations⟩ := isDocument_shape h
  obtain ⟨hbefore, htarget, hafter⟩ := isDocument_target hconfigurations
  apply isDocument_set hmembers
  apply Json.IsDocument.arr
  intro c hc
  rcases List.mem_append.mp hc with hc | hc
  · exact hbefore c hc
  · rcases List.mem_cons.mp hc with rfl | hc
    · exact isDocument_updateTarget d u htarget
    · exact hafter c hc

end Documents

section Update

variable {d d' : Disk} {path : Text} {u : Update} {v : Json} {written : Bool}

def current : Storage.Document → Json
  | .value v => v
  | .unusable _ => .null

def outcome (d : Disk) (path : Text) (u : Update) (v : Json) : Disk × Except Failure Bool :=
  if v = updated d u v then (d, .ok false)
  else match (Storage.writeJson d path (updated d u v)).value with
    | (d', .ok ()) => (d', .ok true)
    | (d', .error reason) => (d', .error (.unwritable reason))

lemma value_update :
    (update d path u).value =
      match Storage.document d path with
      | .error e => (d, .error (.oversized e.digits))
      | .ok document => outcome d path u (current document) := by
  rw [update, Noted.value_bind, Storage.value_readJson]
  cases Storage.document d path with
  | error e => rfl
  | ok document =>
    cases document
    all_goals
      dsimp only [current]
      rw [Noted.value_bind, outcome]
      split
      · rfl
      · rw [Noted.value_bind]
        cases (Storage.writeJson d path (updated d u _)).value with
        | mk d' result => cases result <;> rfl

lemma isDocument_current {document : Storage.Document}
    (h : Storage.document d path = .ok document) : (current document).IsDocument := by
  cases document with
  | value v => exact Storage.isDocument_of_document h
  | unusable reason => exact .null

lemma document_of_writeJson (hv : v.IsDocument)
    (h : (Storage.writeJson d path v).value = (d', .ok ())) :
    Storage.document d' path = .ok (.value v) := by
  rw [Storage.document_of_read (Storage.read_of_writeJson h),
    Storage.documentOfBytes_documentBytes path hv]

lemma ok_of_update (h : (update d path u).value = (d', .ok written)) :
    ∃ v, v.IsDocument ∧ Storage.document d' path = .ok (.value (updated d u v)) ∧
      (d' = d ∧ updated d u v = v ∨
        (Storage.writeJson d path (updated d u v)).value = (d', .ok ())) := by
  rw [value_update] at h
  cases hdocument : Storage.document d path with
  | error e => simp [hdocument] at h
  | ok document =>
    rw [hdocument] at h
    have hcurrent := isDocument_current hdocument
    dsimp only at h
    rw [outcome] at h
    split at h
    · rename_i hsame
      obtain rfl := (Prod.mk.inj h).1
      refine ⟨current document, hcurrent, ?_, Or.inl ⟨rfl, hsame.symm⟩⟩
      cases document with
      | value v => rw [hdocument, ← hsame]; rfl
      | unusable reason => exact Json.noConfusion hsame
    · split at h
      · rename_i hwrite
        obtain rfl := (Prod.mk.inj h).1
        exact ⟨current document, hcurrent,
          document_of_writeJson (isDocument_updated d u hcurrent) hwrite, Or.inr hwrite⟩
      · simp at h

lemma value_update_of_document (h : Storage.document d path = .ok (.value v)) :
    (update d path u).value = outcome d path u v := by
  rw [value_update, h]
  rfl

lemma value_update_eq_unchanged_iff (h : Storage.document d path = .ok (.value v)) :
    (update d path u).value = (d, .ok false) ↔ updated d u v = v := by
  rw [value_update_of_document h, outcome]
  split
  · rename_i hsame
    exact iff_of_true rfl hsame.symm
  · rename_i hne
    refine iff_of_false ?_ (Ne.symm hne)
    split <;> simp

lemma pathExists_setMember {dir : List Text} (h : Storage.IsSettled d path dir)
    (bytes : List UInt8) (p : Text) :
    pathExists (d.setMember dir (Path.baseName path) (.file bytes)) p = pathExists d p := by
  obtain ⟨old, hold⟩ := h.file
  rw [pathExists, pathExists, (Disk.agreesBut_setMember bytes hold).exists?_eq ⟨old, hold⟩]

/-- After an update that succeeded, another one leaves the file alone if its list is in order, and
the one after that does in any case. -/
theorem update_settles (d d' : Disk) (path : Text) (u : Update) (written : Bool)
    (h : (update d path u).value = (d', .ok written)) :
    (∃ v, Storage.document d' path = .ok (.value v) ∧
        ((update d' path u).value = (d', .ok false) ↔
          u.finalize = true ∨ u.reset = true ∨ IsInOrder d' u.given (listed v))) ∧
      ∃ d'' again, (update d' path u).value = (d'', .ok again) ∧
        (update d'' path u).value = (d'', .ok false) := by
  obtain ⟨v, hv, hdocument, hcause⟩ := ok_of_update h
  have hsecond := value_update_eq_unchanged_iff (u := u) hdocument
  refine ⟨⟨_, hdocument, hsecond.trans updated_again_iff⟩, ?_⟩
  by_cases hsame : updated d' u (updated d u v) = updated d u v
  · exact ⟨d', false, hsecond.mpr hsame, hsecond.mpr hsame⟩
  · rcases hcause with ⟨rfl, hv'⟩ | hwrite
    · rw [hv', hv'] at hsame
      exact (hsame rfl).elim
    · obtain ⟨_, dir, hsettled⟩ := Storage.exists_isSettled hwrite
      have hagain := hsettled.value_writeJson (updated d' u (updated d u v))
      have hdocument' := document_of_writeJson
        (isDocument_updated d' u (isDocument_updated d u hv)) hagain
      refine ⟨_, true, ?_, (value_update_eq_unchanged_iff hdocument').mpr ?_⟩
      · rw [value_update_of_document hdocument, outcome, if_neg (Ne.symm hsame), hagain]
      · exact updated_third fun p => pathExists_setMember hsettled _ p

section Sample

def propertiesDisk (properties : Option Json) : Disk :=
  { root := .dir (("p", .dir []) ::
      properties.toList.map fun v => ("c", .file (Storage.documentBytes v)))
    here := [] }

def goneUpdate : Update := { includePaths := [some "/gone", some "/p"] }

def goneFirst : Json := updated (propertiesDisk none) goneUpdate .null

def goneSecond : Json := updated (propertiesDisk (some goneFirst)) goneUpdate goneFirst

lemma value_update_gone :
    (update (propertiesDisk none) "/c" goneUpdate).value =
      (propertiesDisk (some goneFirst), .ok true) := by
  have hdocument : Storage.document (propertiesDisk none) "/c" =
      .ok (.unusable "/c does not exist") := rfl
  have hwrite : ∀ v, (Storage.writeJson (propertiesDisk none) "/c" v).value =
      (propertiesDisk (some v), .ok ()) := fun _ => rfl
  rw [value_update, hdocument]
  dsimp only
  rw [outcome, if_neg (by simp [current, updated]), current, hwrite]
  rfl

theorem update_settles_sample :
    ∃ d', (update (propertiesDisk none) "/c" goneUpdate).value = (d', .ok true) ∧
      (∃ v, Storage.document d' "/c" = .ok (.value v) ∧
        ((update d' "/c" goneUpdate).value = (d', .ok false) ↔
          goneUpdate.finalize = true ∨ goneUpdate.reset = true ∨
            IsInOrder d' goneUpdate.given (listed v))) ∧
      ∃ d'' again, (update d' "/c" goneUpdate).value = (d'', .ok again) ∧
        (update d'' "/c" goneUpdate).value = (d'', .ok false) :=
  ⟨_, value_update_gone, update_settles _ _ _ _ _ value_update_gone⟩

/-- A second update with the same include directories writes the file again: the one that does not
exist goes behind the one that does. -/
theorem update_settles_gone :
    ∃ d' d'', (update (propertiesDisk none) "/c" goneUpdate).value = (d', .ok true) ∧
      (update d' "/c" goneUpdate).value = (d'', .ok true) ∧ d''.read "/c" ≠ d'.read "/c" := by
  have hfirst : goneFirst.IsDocument := isDocument_updated _ _ .null
  have hsecond : goneSecond.IsDocument := isDocument_updated _ _ hfirst
  have hread : ∀ v, (propertiesDisk (some v)).read "/c" = .ok (Storage.documentBytes v) :=
    fun _ => rfl
  have hdocument := (Storage.document_of_read (hread goneFirst)).trans
    (Storage.documentOfBytes_documentBytes "/c" hfirst)
  have hwrite : ∀ v w, (Storage.writeJson (propertiesDisk (some v)) "/c" w).value =
      (propertiesDisk (some w), .ok ()) := fun _ _ => rfl
  have hne : goneFirst ≠ goneSecond := by
    decide
  refine ⟨propertiesDisk (some goneFirst), propertiesDisk (some goneSecond), value_update_gone,
    ?_, ?_⟩
  · rw [value_update_of_document hdocument, outcome, ← goneSecond, if_neg hne, hwrite]
  · rw [hread, hread]
    intro hbytes
    exact hne (Storage.eq_of_documentBytes hfirst hsecond (Except.ok.inj hbytes.symm))

end Sample

end Update

end SketchBuild.Properties
