import SketchBuild.Proofs.Database.Stored
import SketchBuild.Proofs.Storage.Rewriting

namespace SketchBuild.Database

lemma toJson_map_canonical (es : List Entry) : toJson (es.map Entry.canonical) = toJson es := by
  rw [toJson, toJson, List.map_map]
  congr 2
  funext e
  exact e.toJson_canonical

/-- Entries that were written are loaded in their order and their forms, with the command lines
that their arguments make. Writing the loaded ones leaves the disk as it is. -/
theorem load_of_writeJson (d d' : Disk) (path : Text) (es : List Entry)
    (hc : ∀ e ∈ es, e.IsComplete)
    (hw : (Storage.writeJson d path (toJson es)).value = (d', .ok ())) :
    let loaded := es.map fun e =>
      { e with command := e.command.map fun _ => Command.line e.arguments }
    (load d' path).run.value = .ok (loaded, none) ∧
      (Storage.writeJson d' path (toJson loaded)).value = (d', .ok ()) := by
  intro loaded
  have hloaded : loaded = es.map Entry.canonical :=
    List.map_congr_left fun e _ => e.canonical_eq.symm
  rw [hloaded]
  refine ⟨value_load (Storage.read_of_writeJson hw) hc, ?_⟩
  rw [toJson_map_canonical]
  exact Storage.value_writeJson_again hw

section Sample

def sampleEntries : List Entry :=
  [{ directory := "/p", file := "x.c", arguments := ["gcc", [], "-DS=\"a b\"", "x.c"] },
    { directory := "/p", file := "é\n.c", arguments := ["g++", "a b"], command := some "g++ 'a b'" }]

lemma exists_writeJson_sample (v : Json) :
    ∃ d', (Storage.writeJson { root := .dir [], here := [] } "/w/d" v).value = (d', .ok ()) := by
  rw [Storage.value_writeJson]
  generalize Storage.documentBytes v = bytes
  exact ⟨_, rfl⟩

theorem load_of_writeJson_sample :
    ∃ d', (Storage.writeJson { root := .dir [], here := [] } "/w/d" (toJson sampleEntries)).value =
        (d', .ok ()) ∧
      (∀ e ∈ sampleEntries, e.IsComplete) ∧
      let loaded := sampleEntries.map fun e =>
        { e with command := e.command.map fun _ => Command.line e.arguments }
      loaded.map Entry.command = [none, some ("g++ \"a b\"" : Text)] ∧
        (load d' "/w/d").run.value = .ok (loaded, none) ∧
        (Storage.writeJson d' "/w/d" (toJson loaded)).value = (d', .ok ()) := by
  obtain ⟨d', hw⟩ := exists_writeJson_sample (toJson sampleEntries)
  have hc : ∀ e ∈ sampleEntries, e.IsComplete := by
    intro e he
    simp only [sampleEntries, List.mem_cons, List.not_mem_nil, or_false] at he
    rcases he with rfl | rfl
    · exact ⟨by decide, by decide, by decide⟩
    · exact ⟨by decide, by decide, by decide⟩
  exact ⟨d', hw, hc, by decide, load_of_writeJson _ d' "/w/d" sampleEntries hc hw⟩

end Sample

end SketchBuild.Database
