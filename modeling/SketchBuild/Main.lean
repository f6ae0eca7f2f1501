import SketchBuild.Disk.Snapshot
import SketchBuild.Tool.Diagnostics
import SketchBuild.Tool.Synchronize
import SketchBuild.Tool.Verify

/-!
The program. It runs a tool on the part of the real disk that the tool looks at, carries out the
changes that the tool makes, and prints what it tells.
-/

namespace SketchBuild.Program

/-- A tool that tells of a version it cannot read instead of ending its run with it. -/
def verify (i : Tool.Invocation) : Noted Tool.Outcome := do
  match ← Tool.Verify.run i with
  | .ok outcome => return outcome
  | .error problem =>
    Noted.printLine .err problem.message
    return { disk := i.disk, exitCode := ExitCode.invalidArguments }

def tools : List (String × (Tool.Invocation → Noted Tool.Outcome)) :=
  [("diagnostics", Tool.Diagnostics.run), ("compiledb", Tool.Synchronize.run), ("packages", verify)]

def usage : String := "usage: sketchbuild diagnostics|compiledb|packages ..."

def readsInput (arguments : List Text) : Bool :=
  match Tool.Diagnostics.manual.grammar.parse arguments with
  | .ok g => g.argument = some ['-']
  | .error _ => false

def realPath (location : List Text) : String := String.ofList ('/' :: ['/'].intercalate location)

def look (location : List Text) : IO (Option Node) := do
  let path := (← IO.currentDir) / realPath location
  if ← path.isDir then return some (.dir [])
  match ← (IO.FS.readBinFile path).toBaseIO with
  | .ok bytes => return some (.file bytes.toList)
  | .error _ => return none

def load (d : Disk) (path : Text) : IO Disk :=
  (d.trail path).foldlM (fun d location => do
    match ← look location with
    | some node => return d.learn location node
    | none => return d) d

def loadTree (d : Disk) (path : Text) : IO Disk := do
  let d ← load d path
  let dir := (← IO.currentDir) / String.ofList path
  let visible (name : Text) : Bool := name ∉ ProjectIndex.skippedDirs && name.head? ≠ some '.'
  let found ← dir.walkDir fun p => return visible (p.fileName.getD "").toList
  found.foldlM (fun d p => do
    return d.learnNew (Disk.steps p.toString.toList) (if ← p.isDir then .dir [] else .file [])) d

def follow (d : Disk) : Note → IO Disk
  | .looked path => load d path
  | .walked path => loadTree d path
  | _ => return d

def namesPlace : Note → Bool
  | .looked _ | .walked _ => true
  | _ => false

/-- Runs a tool on more and more of the real disk, until it looks at nothing new. -/
def settle (run : Disk → Noted Tool.Outcome) (start : Disk) : IO (Disk × Noted Tool.Outcome) := do
  let mut d := start
  let mut known : List Note := []
  let mut result := run d
  repeat
    let fresh := (result.notes.filter fun note => namesPlace note && note ∉ known).eraseDups
    if fresh.isEmpty then break
    d ← fresh.foldlM follow d
    known := known ++ fresh
    result := run d
  return (d, result)

def carryOut : Disk.Change → IO Unit
  | .makeDir location => IO.FS.createDirAll (realPath location)
  | .write location bytes => do
    let path := realPath location
    let aside := String.ofList (Storage.temporary path.toList)
    IO.FS.writeBinFile aside ⟨bytes.toArray⟩
    IO.FS.rename aside path
  | .remove location => IO.FS.removeFile (realPath location)

def readInput : IO (List UInt8) := do
  let input ← IO.getStdin
  let mut bytes := ByteArray.empty
  repeat
    let more ← input.read 65536
    if more.isEmpty then break
    bytes := bytes ++ more
  return bytes.toList

def perform (tool : Tool.Invocation → Noted Tool.Outcome) (arguments : List Text) : IO UInt32 := do
  let bytes ← if readsInput arguments then readInput else pure []
  let toTerminal ← (← IO.getStdout).isTty
  let noColor ← IO.getEnv "NO_COLOR"
  let start := Disk.unexplored (Disk.steps (← IO.currentDir).toString.toList)
  let run (d : Disk) : Noted Tool.Outcome :=
    tool { disk := d, arguments, input := .bytes bytes, toTerminal, noColor := noColor.map String.toList }
  let (before, result) ← settle run start
  let outcome := result.value
  (Disk.changes before outcome.disk).forM carryOut
  IO.print (String.ofList (printedTo .out result.notes))
  IO.eprint (String.ofList (errorStream outcome.verbose result.notes))
  return outcome.exitCode.toUInt32

end SketchBuild.Program

def main (arguments : List String) : IO UInt32 := do
  match arguments with
  | name :: rest =>
    match SketchBuild.Program.tools.lookup name with
    | some tool => SketchBuild.Program.perform tool (rest.map String.toList)
    | none =>
      IO.eprintln SketchBuild.Program.usage
      return 2
  | [] =>
    IO.eprintln SketchBuild.Program.usage
    return 2
