import SketchBuild.Database.Merge
import SketchBuild.Failure
import SketchBuild.Palette

namespace SketchBuild.Database

def MergeResult.document (r : MergeResult) (propertiesUpdated : Bool) : Json :=
  .obj [
    ("summary", .obj [
      ("count", .int r.count),
      ("source", .str r.source.name),
      ("database", .str r.databasePath),
      ("entries", .int r.entries.length),
      ("kept_existing", .int r.keptExisting),
      ("dropped_existing", .int r.droppedExisting),
      ("discarded", .int r.discarded),
      ("written", .bool r.written),
      ("cpp_properties_updated", .bool propertiesUpdated),
      ("version", .str releaseVersion)]),
    ("warnings", .arr (r.warnings.map .str))]

def MergeResult.jsonText (r : MergeResult) (propertiesUpdated : Bool) : Text :=
  (r.document propertiesUpdated).pretty

def printEach (f : Text → Noted Unit) : List Text → Noted Unit
  | [] => pure ()
  | s :: rest => do
    f s
    printEach f rest

def printCount (label : Text) (n : Nat) : Noted Unit :=
  if n = 0 then pure () else Noted.printLine .out (label ++ Text.ofNat n)

def MergeResult.printSummary (r : MergeResult) (p : Palette) (propertiesUpdated : Bool) :
    Noted Unit := do
  if r.hasArtifact then
    p.print .success false ("Merged " ++ Text.ofInt r.count ++ " entries from the " ++
      r.source.name ++ " build artifact into " ++ r.databasePath)
    Noted.printLine .out ("  Database entries: " ++ p.bright ++ Text.ofNat r.entries.length ++
      p.reset)
    Noted.printLine .out ("  Kept from earlier builds: " ++ Text.ofNat r.keptExisting)
    printCount "  Dropped (no longer project files): " r.droppedExisting
    printCount "  Ignored (outside the project): " r.discarded
    printEach (p.print .warning true) r.warnings
    if propertiesUpdated then
      p.print .info false "Updated c_cpp_properties.json include paths"
  else
    Noted.printLine .out
      (p.line .warning false "No compilation data available for this build.")
    printEach (fun s => Noted.printLine .out ("  " ++ p.dim ++ s ++ p.reset)) r.warnings

end SketchBuild.Database
