import SketchBuild.Database.Merge
import SketchBuild.Proofs.Entry
import SketchBuild.Proofs.Storage.Document
import SketchBuild.Proofs.Storage.Reading

namespace SketchBuild.Database

variable {d d' : Disk} {path : Text} {es : List Entry}

lemma isDocument_toJson (es : List Entry) : (toJson es).IsDocument :=
  .arr_map fun e _ => e.isDocument_toJson

lemma value_entriesFrom (path : Text) (index : Nat) (elements : List Json) :
    (entriesFrom path index elements).value =
      (elements.filterMap fun v => (Entry.ofJson v).toOption,
        elements.countP fun v => (Entry.ofJson v).toOption.isNone) := by
  induction elements generalizing index with
  | nil => rfl
  | cons v elements ih =>
    cases hv : Entry.ofJson v with
    | ok e =>
      rw [entriesFrom, hv]
      dsimp only
      rw [Noted.value_bind, ih, List.filterMap_cons_some (by rw [hv]; rfl),
        List.countP_cons_of_neg (by simp [hv, Except.toOption])]
      rfl
    | error fault =>
      rw [entriesFrom, hv]
      dsimp only
      rw [Noted.value_bind, Noted.value_bind, ih, List.filterMap_cons_none (by rw [hv]; rfl),
        List.countP_cons_of_pos (by simp [hv, Except.toOption])]
      rfl

lemma value_parseEntries (path : Text) (elements : List Json) :
    (parseEntries path elements).value =
      (elements.filterMap fun v => (Entry.ofJson v).toOption,
        elements.countP fun v => (Entry.ofJson v).toOption.isNone) := by
  rw [parseEntries, Noted.value_bind, value_entriesFrom]
  dsimp only
  split <;> rfl

lemma filterMap_ofJson (es : List Entry) :
    (es.map Entry.toJson).filterMap (fun v => (Entry.ofJson v).toOption) =
      (es.filter (·.IsComplete)).map Entry.canonical := by
  rw [List.filterMap_map, ← List.filterMap_eq_map, List.filterMap_filter]
  congr 1
  funext e
  simp [Entry.toOption_ofJson_toJson]

lemma filter_isComplete (h : ∀ e ∈ es, e.IsComplete) : es.filter (·.IsComplete) = es := by
  apply List.filter_eq_self.mpr
  simpa using h

lemma countP_ofJson (h : ∀ e ∈ es, e.IsComplete) :
    (es.map Entry.toJson).countP (fun v => (Entry.ofJson v).toOption.isNone) = 0 := by
  rw [List.countP_map, List.countP_eq_zero]
  intro e he
  simp [Entry.toOption_ofJson_toJson, h e he]

lemma value_load_storage (d : Disk) (path : Text) :
    (Storage.load d path).run.value = Storage.document d path := rfl

lemma document_of_read (h : d.read path = .ok (Storage.documentBytes (toJson es))) :
    Storage.document d path = .ok (.value (.arr (es.map Entry.toJson))) := by
  rw [Storage.document_of_read h, Storage.documentOfBytes_documentBytes path (isDocument_toJson es)]
  rfl

lemma value_load_filter (h : d.read path = .ok (Storage.documentBytes (toJson es))) :
    (load d path).run.value = .ok ((es.filter (·.IsComplete)).map Entry.canonical, none) := by
  rw [load, Storage.value_run_bind, value_load_storage, document_of_read h]
  dsimp only
  rw [Storage.value_run_bind, Storage.value_run_lift, value_parseEntries, filterMap_ofJson]
  rfl

lemma value_load (h : d.read path = .ok (Storage.documentBytes (toJson es)))
    (hc : ∀ e ∈ es, e.IsComplete) :
    (load d path).run.value = .ok (es.map Entry.canonical, none) := by
  rw [value_load_filter h, filter_isComplete hc]

lemma isComplete_of_load {loaded : List Entry × Option Text}
    (h : (load d path).run.value = .ok loaded) : ∀ e ∈ loaded.1, e.IsComplete := by
  rw [load, Storage.value_run_bind, value_load_storage] at h
  split at h
  · split at h
    · rw [Storage.value_run_bind, Storage.value_run_lift, value_parseEntries] at h
      obtain rfl := Except.ok.inj h
      intro e he
      obtain ⟨v, _, hv⟩ := List.mem_filterMap.mp he
      cases hread : Entry.ofJson v with
      | error fault => simp [hread, Except.toOption] at hv
      | ok x =>
        rw [hread] at hv
        obtain rfl := Option.some.inj hv
        exact (Entry.ofJson_eq_ok hread).1
    · obtain rfl := Except.ok.inj h
      simp
    · obtain rfl := Except.ok.inj h
      simp
    · obtain rfl := Except.ok.inj h
      simp
  · simp at h

lemma load_congr (h : d'.read path = d.read path) {loaded : List Entry × Option Text}
    (hl : (load d path).run.value = .ok loaded) :
    ∃ failure, (load d' path).run.value = .ok (loaded.1, failure) := by
  rw [load, Storage.value_run_bind, value_load_storage] at hl
  rw [load, Storage.value_run_bind, value_load_storage]
  cases hr : d.read path with
  | ok bytes =>
    rw [Storage.document_of_read hr] at hl
    rw [Storage.document_of_read (h.trans hr)]
    exact ⟨loaded.2, hl⟩
  | error e =>
    obtain ⟨reason, hreason⟩ := Storage.document_of_read_error hr
    obtain ⟨reason', hreason'⟩ := Storage.document_of_read_error (h.trans hr)
    rw [hreason] at hl
    rw [hreason']
    obtain rfl := Except.ok.inj hl
    exact ⟨some reason', rfl⟩

lemma value_readArtifact {buildDir : Text} (sketchDir : Text)
    (h : d.read (Path.join buildDir databaseFile) = .ok (Storage.documentBytes (toJson es)))
    (hc : ∀ e ∈ es, e.IsComplete) :
    (readArtifact d buildDir sketchDir).run.value =
      .ok (.primary (Path.join buildDir databaseFile) (es.map Entry.canonical) 0) := by
  rw [readArtifact, Storage.value_run_bind, value_load_storage, document_of_read h]
  dsimp only
  rw [Storage.value_run_bind, Storage.value_run_lift, value_parseEntries, filterMap_ofJson,
    filter_isComplete hc, countP_ofJson hc]
  rfl

end SketchBuild.Database
