import SketchBuild.Proofs.Disk.Change
import SketchBuild.Proofs.Json.Reading
import SketchBuild.Proofs.Text.Ascii
import SketchBuild.Proofs.Text.Newline
import SketchBuild.Storage

namespace SketchBuild.Storage

variable {d d' : Disk} {path : Text}

lemma documentOfBytes_documentBytes (path : Text) {v : Json} (h : v.IsDocument) :
    documentOfBytes path (documentBytes v) = .ok (.value v) := by
  have hplain : ∀ c ∈ v.pretty ++ ['\n'], Json.isPlain c = true := by
    intro c hc
    rcases List.mem_append.mp hc with hc | hc
    · exact List.all_eq_true.mp (h.all_indented 0) c hc
    · rw [List.mem_singleton.mp hc]
      rfl
  have hascii : ∀ c ∈ v.pretty ++ ['\n'], c.toNat < 128 := by
    intro c hc
    have hp := hplain c hc
    simp only [Json.isPlain, Bool.or_eq_true, Bool.and_eq_true, decide_eq_true_eq] at hp
    rcases hp with rfl | hp
    · decide
    · omega
  have hreturn : '\r' ∉ v.pretty ++ ['\n'] := by
    intro hc
    exact absurd (hplain _ hc) (by decide)
  rw [documentOfBytes, documentBytes, Text.Utf8.decode_encode hascii]
  dsimp only
  rw [Text.unifyNewlines_self hreturn, Json.read_pretty h]

lemma eq_of_documentBytes {v w : Json} (hv : v.IsDocument) (hw : w.IsDocument)
    (h : documentBytes v = documentBytes w) : v = w := by
  have hread := documentOfBytes_documentBytes [] hv
  rw [h, documentOfBytes_documentBytes [] hw] at hread
  exact (Document.value.inj (Except.ok.inj hread)).symm

lemma read_of_writeAside {bytes : List UInt8} (h : writeAside d path bytes = (d', .ok ())) :
    d'.read path = .ok bytes := by
  rw [writeAside] at h
  cases hw : d.write (temporary path) bytes with
  | error e => simp [hw] at h
  | ok aside =>
    rw [hw] at h
    dsimp only at h
    cases hr : aside.rename (temporary path) path with
    | error e => simp [hr] at h
    | ok moved =>
      rw [hr] at h
      obtain ⟨rfl, _⟩ := Prod.mk.inj h
      obtain ⟨l, hl⟩ := Disk.place_of_write hw
      obtain ⟨k, hk⟩ := Disk.place_of_rename hr hl
      exact Disk.read_of_place hk

lemma value_writeJson (d : Disk) (path : Text) (v : Json) :
    (writeJson d path v).value =
      let made := if Path.parent path = [] then (d, .ok ()) else d.makeDirs (Path.parent path)
      match made.2 with
      | .error e => (made.1, .error e)
      | .ok () =>
        match writeAside made.1 path (documentBytes v) with
        | (d', .ok ()) => (d', .ok ())
        | (d', .error e) => ((cleanUp d' path).value, .error e) := by
  rw [writeJson]
  simp only [Noted.value_bind]
  cases (if Path.parent path = [] then (d, .ok ()) else d.makeDirs (Path.parent path)) with
  | mk above made =>
    cases made with
    | error e => rfl
    | ok made =>
      dsimp only
      cases writeAside above path (documentBytes v) with
      | mk d' written => cases written <;> rfl

lemma read_of_writeJson {v : Json} (h : (writeJson d path v).value = (d', .ok ())) :
    d'.read path = .ok (documentBytes v) := by
  rw [value_writeJson] at h
  dsimp only at h
  split at h
  · simp at h
  · split at h
    · rename_i hwritten
      obtain ⟨rfl, _⟩ := Prod.mk.inj h
      exact read_of_writeAside hwritten
    · simp at h

lemma document_of_read {bytes : List UInt8} (h : d.read path = .ok bytes) :
    document d path = documentOfBytes path bytes := by
  obtain ⟨l, hl⟩ := Disk.exists_of_read h
  have hexists : d.exists? path = true := by
    rw [Disk.exists?, Disk.node?, hl]
    rfl
  rw [document, if_pos hexists, h]

lemma document_of_read_error {e : Disk.Error} (h : d.read path = .error e) :
    ∃ reason, document d path = .ok (.unusable reason) := by
  rw [document, h]
  split
  · exact ⟨_, rfl⟩
  · exact ⟨_, rfl⟩

lemma document_of_toOption {content : Document} (h : (document d path).toOption = some content) :
    document d path = .ok content := by
  cases hdocument : document d path with
  | error e => simp [hdocument, Except.toOption] at h
  | ok content' =>
    rw [hdocument] at h
    exact congrArg _ (Option.some.inj h)

def documentText? (d : Disk) (path : Text) : Option Text :=
  match d.read path with
  | .ok bytes => (Text.Utf8.decode bytes).toOption.map Text.unifyNewlines
  | .error _ => none

lemma exists_of_document {v : Json} (h : document d path = .ok (.value v)) :
    ∃ text, documentText? d path = some text ∧ Json.read text = .ok v := by
  cases hread : d.read path with
  | error cause =>
    obtain ⟨reason, hreason⟩ := document_of_read_error hread
    simp [hreason] at h
  | ok bytes =>
    rw [document_of_read hread, documentOfBytes] at h
    cases hdecode : Text.Utf8.decode bytes with
    | error cause => simp [hdecode] at h
    | ok text =>
      simp only [hdecode] at h
      refine ⟨Text.unifyNewlines text, by simp [documentText?, hread, hdecode, Except.toOption], ?_⟩
      split at h
      · rename_i w hw
        obtain rfl := Document.value.inj (Except.ok.inj h)
        exact hw
      · simp at h
      · simp at h

lemma isDocument_of_document {v : Json} (h : document d path = .ok (.value v)) : v.IsDocument := by
  obtain ⟨text, _, hv⟩ := exists_of_document h
  exact Json.isDocument_of_read hv

section Refused

/-- Whether the text of a file has a run of so many digits, more than are read as a number. -/
def IsOverlong (d : Disk) (path : Text) (n : Nat) : Prop :=
  ∃ bytes text, d.read path = .ok bytes ∧ Text.Utf8.decode bytes = .ok text ∧
    Text.maxDigits < n ∧ Json.HasRun n text

lemma hasRun_of_unifyNewlines {n : Nat} {s : Text} (h : Json.HasRun n (Text.unifyNewlines s)) :
    Json.HasRun n s := by
  obtain ⟨digits, hdigits, hlength, hall⟩ := h
  refine ⟨digits, Text.infix_of_infix_unifyNewlines ?_ hdigits, hlength, hall⟩
  intro hline
  exact absurd (hall _ hline) (by decide)

lemma isOverlong_of_document {e : Oversized} (h : document d path = .error e) :
    IsOverlong d path e.digits := by
  cases hread : d.read path with
  | error cause =>
    obtain ⟨reason, hreason⟩ := document_of_read_error hread
    rw [hreason] at h
    simp at h
  | ok bytes =>
    rw [document_of_read hread, documentOfBytes] at h
    cases hdecode : Text.Utf8.decode bytes with
    | error cause => simp [hdecode] at h
    | ok text =>
      simp only [hdecode] at h
      split at h
      · simp at h
      · simp at h
      · rename_i n hstop
        obtain rfl := Except.error.inj h
        obtain ⟨hlarge, hrun⟩ := Json.hasRun_of_read hstop
        exact ⟨bytes, text, hread, hdecode, hlarge, hasRun_of_unifyNewlines hrun⟩

end Refused

end SketchBuild.Storage
