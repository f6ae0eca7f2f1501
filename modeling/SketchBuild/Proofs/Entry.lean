import SketchBuild.Entry
import SketchBuild.Proofs.Command.RoundTrip
import SketchBuild.Proofs.Json.RoundTrip

namespace SketchBuild.Entry

structure IsComplete (e : Entry) : Prop where
  directory : e.directory ≠ []
  file : e.file ≠ []
  arguments : e.arguments ≠ []

instance : DecidablePred IsComplete := fun e =>
  decidable_of_iff (e.directory ≠ [] ∧ e.file ≠ [] ∧ e.arguments ≠ [])
    ⟨fun ⟨hd, hf, ha⟩ => ⟨hd, hf, ha⟩, fun h => ⟨h.directory, h.file, h.arguments⟩⟩

/-- The entry with the command line that its arguments make, if it is stored as one. -/
def canonical (e : Entry) : Entry := e.withArguments e.arguments

lemma canonical_eq (e : Entry) :
    e.canonical = { e with command := e.command.map fun _ => Command.line e.arguments } := by
  obtain ⟨directory, file, arguments, command⟩ := e
  cases command <;> rfl

lemma toJson_canonical (e : Entry) : e.canonical.toJson = e.toJson := by
  obtain ⟨directory, file, arguments, command⟩ := e
  cases command <;> rfl

def record (directory file name : Text) (v : Json) : Json :=
  .obj [("directory", .str directory), ("file", .str file), (name, v)]

lemma toJson_none (directory file : Text) (arguments : List Text) :
    toJson { directory, file, arguments } =
      record directory file "arguments" (.arr (arguments.map .str)) := rfl

lemma toJson_some (directory file command : Text) (arguments : List Text) :
    toJson { directory, file, arguments, command := some command } =
      record directory file "command" (.str (Command.line arguments)) := rfl

lemma isDocument_record {directory file name : Text} {v : Json}
    (hname : name = "arguments" ∨ name = "command") (hv : v.IsDocument) :
    (record directory file name v).IsDocument := by
  apply Json.IsDocument.obj
  · have hkeys : Table.keys [("directory".toList, Json.str directory), ("file".toList, .str file),
        (name, v)] = ["directory".toList, "file".toList, name] := rfl
    rw [hkeys]
    rcases hname with rfl | rfl <;> decide
  · intro m hm
    simp only [List.mem_cons, List.not_mem_nil, or_false] at hm
    rcases hm with rfl | rfl | rfl
    · exact .str _
    · exact .str _
    · exact hv

lemma isDocument_toJson (e : Entry) : e.toJson.IsDocument := by
  obtain ⟨directory, file, arguments, command⟩ := e
  cases command with
  | none =>
    rw [toJson_none]
    exact isDocument_record (Or.inl rfl) (.arr_map fun s _ => .str s)
  | some command =>
    rw [toJson_some]
    exact isDocument_record (Or.inr rfl) (.str _)

lemma mapM_text? (arguments : List Text) :
    (arguments.map Json.str).mapM Json.text? = some arguments := by
  induction arguments with
  | nil => rfl
  | cons a arguments ih =>
    rw [List.map_cons, List.mapM_cons, ih]
    rfl

lemma ofArguments_map {directory file : Text} {arguments : List Text} (h : arguments ≠ []) :
    ofArguments directory file (.arr (arguments.map .str)) = .ok { directory, file, arguments } := by
  rw [ofArguments, Json.items?, Option.bind_some, mapM_text?]
  cases arguments with
  | nil => exact (h rfl).elim
  | cons a arguments => rfl

lemma ofCommand_line {directory file : Text} {arguments : List Text} (h : arguments ≠ []) :
    ofCommand directory file (.str (Command.line arguments)) =
      .ok { directory, file, arguments, command := some (Command.line arguments) } := by
  rw [ofCommand, Json.text?]
  dsimp only
  rw [Command.words_line]
  cases arguments with
  | nil => exact (h rfl).elim
  | cons a arguments => rfl

lemma ofJson_record {directory file : Text} (hd : directory ≠ []) (hf : file ≠ []) (v : Json) :
    ofJson (record directory file "arguments" v) = ofArguments directory file v ∧
      ofJson (record directory file "command" v) = ofCommand directory file v := by
  have hfilter : ∀ s : Text, s ≠ [] → (some s).filter (· ≠ []) = some s := by
    intro s hs
    simpa using hs
  have hdir : ∀ name, (record directory file name v).textAt? "directory" = some directory :=
    fun _ => rfl
  have hfile : ∀ name, (record directory file name v).textAt? "file" = some file :=
    fun _ => rfl
  constructor
  · have hmember : (record directory file "arguments" v).member? "arguments" = some v := rfl
    have hother : (record directory file "arguments" v).member? "command" = none := rfl
    simp only [record] at *
    rw [ofJson, hdir, hfile, hfilter _ hd, hfilter _ hf]
    dsimp only
    rw [hmember, hother]
  · have hmember : (record directory file "command" v).member? "command" = some v := rfl
    have hother : (record directory file "command" v).member? "arguments" = none := rfl
    simp only [record] at *
    rw [ofJson, hdir, hfile, hfilter _ hd, hfilter _ hf]
    dsimp only
    rw [hmember, hother]

lemma ofJson_toJson {e : Entry} (h : e.IsComplete) : ofJson e.toJson = .ok e.canonical := by
  obtain ⟨directory, file, arguments, command⟩ := e
  cases command with
  | none =>
    rw [toJson_none, (ofJson_record h.directory h.file _).1, ofArguments_map h.arguments]
    rfl
  | some command =>
    rw [toJson_some, (ofJson_record h.directory h.file _).2, ofCommand_line h.arguments]
    rfl

lemma ofArguments_eq_ok {directory file : Text} {v : Json} {e : Entry}
    (h : ofArguments directory file v = .ok e) :
    e.directory = directory ∧ e.file = file ∧ e.arguments ≠ [] := by
  rw [ofArguments] at h
  split at h
  · simp at h
  · simp at h
  · rename_i arguments hne _
    obtain rfl := Except.ok.inj h
    exact ⟨rfl, rfl, hne⟩

lemma ofCommand_eq_ok {directory file : Text} {v : Json} {e : Entry}
    (h : ofCommand directory file v = .ok e) :
    e.directory = directory ∧ e.file = file ∧ e.arguments ≠ [] := by
  rw [ofCommand] at h
  split at h
  · simp at h
  · split at h
    · simp at h
    · rename_i hne
      obtain rfl := Except.ok.inj h
      exact ⟨rfl, rfl, hne⟩

lemma ofJson_eq_ok {v : Json} {e : Entry} (h : ofJson v = .ok e) :
    e.IsComplete ∧ v.textAt? "directory" = some e.directory ∧ v.textAt? "file" = some e.file := by
  unfold ofJson at h
  split at h
  · split at h
    · simp at h
    · simp at h
    · rename_i directory file hdir hfile
      obtain ⟨hdir, hd⟩ := Option.filter_eq_some_iff.mp hdir
      obtain ⟨hfile, hf⟩ := Option.filter_eq_some_iff.mp hfile
      have hparts : e.directory = directory ∧ e.file = file ∧ e.arguments ≠ [] := by
        split at h
        · exact ofArguments_eq_ok h
        · exact ofCommand_eq_ok h
        · simp at h
      obtain ⟨rfl, rfl, ha⟩ := hparts
      exact ⟨⟨by simpa using hd, by simpa using hf, ha⟩, hdir, hfile⟩
  · simp at h

lemma toOption_ofJson_toJson (e : Entry) :
    (ofJson e.toJson).toOption = if e.IsComplete then some e.canonical else none := by
  split
  · rename_i hc
    rw [ofJson_toJson hc]
    rfl
  · rename_i hc
    cases hread : ofJson e.toJson with
    | error fault => rfl
    | ok x =>
      obtain ⟨hx, hdir, hfile⟩ := ofJson_eq_ok hread
      have hparts : e.directory = x.directory ∧ e.file = x.file := by
        obtain ⟨directory, file, arguments, command⟩ := e
        cases command
        · exact ⟨Option.some.inj hdir, Option.some.inj hfile⟩
        · exact ⟨Option.some.inj hdir, Option.some.inj hfile⟩
      have hd : e.directory ≠ [] := hparts.1 ▸ hx.directory
      have hf : e.file ≠ [] := hparts.2 ▸ hx.file
      have ha : e.arguments = [] := by
        by_contra hne
        exact hc ⟨hd, hf, hne⟩
      obtain ⟨directory, file, arguments, command⟩ := e
      obtain rfl : arguments = [] := ha
      cases command with
      | none =>
        rw [toJson_none, (ofJson_record hd hf _).1] at hread
        simp [ofArguments, Json.items?] at hread
      | some command =>
        rw [toJson_some, (ofJson_record hd hf _).2, ofCommand, Json.text?] at hread
        dsimp only at hread
        rw [Command.words_line] at hread
        simp at hread

end SketchBuild.Entry
