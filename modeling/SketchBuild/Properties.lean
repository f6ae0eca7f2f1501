import SketchBuild.Entry
import SketchBuild.Flags.Include
import SketchBuild.Storage

namespace SketchBuild.Properties

open Json (Members)

def globBase (path : Text) : Text := (Path.tidy path).takeWhile fun c => c ≠ '*' && c ≠ '?' && c ≠ '['

def pathExists (d : Disk) (path : Text) : Bool := globBase path ≠ [] && d.exists? (globBase path)

/-- The include directory that a flag's value names; one in the compiler's own root is none. -/
def includeDir? (cwd directory value : Text) : Option Text :=
  if value = [] || value.head? = some '=' then none
  else some (Path.tidy (Path.resolve cwd directory value))

def entryIncludes (cwd : Text) (e : Entry) : List Text :=
  ((Flags.Piece.split e.arguments).filterMap Flags.Piece.value?).filterMap
    (includeDir? cwd e.directory)

def addNew (old : List Text) : List Text → List Text
  | [] => old
  | x :: xs => if x ∈ old then addNew old xs else addNew (old ++ [x]) xs

def includePaths (cwd : Text) (entries : List Entry) : List Text :=
  addNew [] (entries.flatMap (entryIncludes cwd))

def compilerPath? (entries : List Entry) : Option Text :=
  entries.findSome? fun e => e.arguments.head?.map Path.tidy

def isEspPath (path : Text) : Bool := (Text.pieces '/' path).any (Text.startsAnyCase "esp32")

def isEspCompiler (path : Text) : Bool :=
  Text.occursAnyCase "esp32" path || Text.occursAnyCase "riscv32-esp-elf" path

structure Update where
  includePaths : List (Option Text)
  compilerPath : Option Text := none
  compileCommands : Option Text := none
  finalize : Bool := false
  reset : Bool := false

def configurationName : Text := "Arduino"

def shape (v : Json) : Members × List Json :=
  let members := match v with
    | .obj members => members
    | _ => []
  let members := Members.setNew "version" (.int 4) members
  match Members.get? "configurations" members with
  | some (.arr items) => (members, items)
  | _ => (Members.set "configurations" (.arr []) members, [])

def isTarget (v : Json) : Bool := v.textAt? "name" = some configurationName

/-- Where the target is: configurations before it, its members and those behind it. The first
one with the right name is taken, else a single one without a name, else a new one at the end. -/
def target (configurations : List Json) : List Json × Members × List Json :=
  let before := configurations.takeWhile (!isTarget ·)
  match configurations.dropWhile (!isTarget ·), configurations with
  | .obj members :: rest, _ => (before, members, rest)
  | _, [.obj members] =>
    if ((Members.get? "name" members).getD .null).isTruthy then
      (configurations, [("name", .str configurationName)], [])
    else ([], Members.set "name" (.str configurationName) members, [])
  | _, _ => (configurations, [("name", .str configurationName)], [])

def listedPaths (members : Members) : List Text :=
  match Members.get? "includePath" members with
  | some (.arr items) => items.map Json.plain
  | _ => []

def existingPaths (d : Disk) (reset : Bool) (members : Members) : List Text :=
  if reset then [] else (listedPaths members).filter (pathExists d)

def putFilled (name : Text) (value : Option Text) (members : Members) : Members :=
  match value with
  | none | some [] => members
  | some text => Members.set name (.str text) members

def setCompiler (u : Update) (members : Members) : Members :=
  let members := putFilled "compileCommands" u.compileCommands
    (putFilled "compilerPath" u.compilerPath members)
  match Members.get? "defines" members with
  | some (.arr _) => members
  | _ => Members.set "defines" (.arr []) members

def isEsp (existing : List Text) (u : Update) (members : Members) : Bool :=
  let compiler := (Members.get? "compilerPath" members).getD .null
  (compiler.isTruthy && isEspCompiler compiler.plain) ||
    (existing ++ u.includePaths.filterMap id).any isEspPath

/-- Sets the dialects of the target: fixed ones for the ESP32 family, else only missing ones. -/
def setDialect (esp : Bool) (members : Members) : Members :=
  let members :=
    if esp then Members.set "cppStandard" (.str "c++23") (Members.set "cStandard" (.str "c17") members)
    else Members.setNew "cppStandard" (.str "c++17") (Members.setNew "cStandard" (.str "c11") members)
  Members.setNew "intelliSenseMode" (.str "gcc-x64") members

def newPaths (existing : List Text) (u : Update) : List Text :=
  addNew (if u.finalize then [] else existing)
    ((u.includePaths.filterMap id).filter (· ≠ []))

def updateTarget (d : Disk) (u : Update) (members : Members) : Members :=
  let existing := existingPaths d u.reset members
  let members := setCompiler u members
  let members := setDialect (isEsp existing u members) members
  Members.set "includePath" (.arr ((newPaths existing u).map .str)) members

def updated (d : Disk) (u : Update) (v : Json) : Json :=
  let (members, configurations) := shape v
  let (before, config, after) := target configurations
  .obj (Members.set "configurations" (.arr (before ++ .obj (updateTarget d u config) :: after)) members)

def pathCount (d : Disk) (u : Update) (v : Json) : Nat :=
  let (_, config, _) := target (shape v).2
  (newPaths (existingPaths d u.reset config) u).length

def lookedAt (v : Json) : List Note :=
  let (_, config, _) := target (shape v).2
  (listedPaths config).map fun path => .looked (globBase path)

inductive Failure where
  | oversized (digits : Nat)
  | unwritable (reason : Disk.Error)
  deriving DecidableEq

def update (d : Disk) (path : Text) (u : Update) : Noted (Disk × Except Failure Bool) := do
  match ← Storage.readJson d path with
  | .error e => return (d, .error (.oversized e.digits))
  | .ok document =>
    let current := match document with
      | .value v => v
      | .unusable _ => .null
    Noted.tellAll (lookedAt current)
    let next := updated d u current
    if current = next then
      Noted.debug ("c_cpp_properties.json unchanged: " ++ path)
      return (d, .ok false)
    else
      match ← Storage.writeJson d path next with
      | (d', .ok ()) =>
        Noted.info ("Updated " ++ path ++ " (" ++ Text.ofNat (pathCount d u current) ++
          " include paths)")
        return (d', .ok true)
      | (d', .error reason) => return (d', .error (.unwritable reason))

end SketchBuild.Properties
