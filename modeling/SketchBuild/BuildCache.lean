import SketchBuild.Entry
import SketchBuild.Path.Basic
import SketchBuild.Storage

namespace SketchBuild

structure CacheTask where
  arguments : List Text
  source : Option Text := none
  object : Option Text := none
  discardsObject : Bool := false
  deriving DecidableEq

namespace BuildCache

def cacheFile : Text := "includes.cache"

def optionsFile : Text := "build.options.json"

def outputFlag : Text := "-o"

def taskFlags : List Text := ["-E", "-CC", "-w", "-c"]

def nullTargets : List Text := ["/dev/null", "nul", "NUL"]

/-- The argument behind the last output flag that has one. -/
def outputTarget? : List Text → Option Text
  | [] => none
  | argument :: rest =>
    match outputTarget? rest with
    | some target => some target
    | none => if argument = outputFlag then rest.head? else none

def filledText? (v : Json) (name : Text) : Option Text := (v.textAt? name).filter (· ≠ [])

def task? (element : Json) : Except Text CacheTask :=
  match element with
  | .obj _ =>
    match ((element.member? "compile_task").bind (·.member? "args")).bind Json.items? with
    | none => .error "no compile_task.args"
    | some items =>
      let arguments := items.filterMap Json.text?
      let compile := (element.member? "compile").getD .null
      .ok {
        arguments
        source := filledText? compile "source_path"
        object := filledText? compile "object_path"
        discardsObject := (outputTarget? arguments).any (· ∈ nullTargets)
      }
  | _ => .error "not an object"

def tasks (index : Nat) : List Json → Noted (List CacheTask)
  | [] => pure []
  | element :: rest =>
    match task? element with
    | .ok task => (task :: ·) <$> tasks (index + 1) rest
    | .error reason => do
      Noted.debug ("Skipping cache element " ++ Text.ofNat index ++ ": " ++ reason)
      tasks (index + 1) rest

def sourceArgument? (arguments : List Text) : Option Text := arguments.reverse.find? Path.isSource

/-- An output flag with its target: the recorded object file, or none at all where the task threw
its object away. -/
def outputPair (task : CacheTask) (target : Text) : List Text :=
  match task.object.filter (· ≠ []) with
  | some object => [outputFlag, object]
  | none => if task.discardsObject && target ∈ nullTargets then [] else [outputFlag, target]

/-- The arguments of a compilation, from those of a task; only the very first one is kept whatever
it is. -/
def compileArguments (task : CacheTask) (first : Bool) : List Text → List Text
  | [] => []
  | [argument] => if !first && argument ∈ taskFlags then [] else [argument]
  | argument :: next :: rest =>
    if !first && argument ∈ taskFlags then compileArguments task false (next :: rest)
    else if argument = outputFlag then outputPair task next ++ compileArguments task false rest
    else argument :: compileArguments task false (next :: rest)

def argumentsOf (task : CacheTask) : List Text := compileArguments task true task.arguments

def sketchLocation? (d : Disk) (buildDir : Text) : Storage.Reading (Option Text) := do
  match ← Storage.load d (Path.join buildDir optionsFile) with
  | .value v => return ((v.textAt? "sketchLocation").map Text.strip).filter (· ≠ [])
  | .unusable _ => return none

def entry? (cwd base : Text) (task : CacheTask) : Noted (Option Entry) :=
  match task.source.or (sourceArgument? task.arguments) with
  | none => do
    Noted.debug ("Skipping cache entry without a source file: " ++
      [' '].intercalate (task.arguments.take 3))
    return none
  | some source =>
    match argumentsOf task with
    | [] => do
      Noted.debug ("Skipping cache entry with empty arguments for " ++ source)
      return none
    | arguments => return some { directory := base, file := Path.resolve cwd base source, arguments }

def entriesOf (cwd base : Text) (tasks : List CacheTask) : Noted (List Entry) :=
  Noted.flatMap (fun task => Option.toList <$> entry? cwd base task) tasks

def entries (d : Disk) (buildDir sketchDir : Text) : Storage.Reading (List Entry) := do
  let path := Path.join buildDir cacheFile
  let unusable (reason : Text) : Noted (List Entry) := do
    Noted.debug ("No usable build cache: " ++ reason)
    return []
  match ← Storage.load d path with
  | .unusable reason => unusable reason
  | .value .null => unusable "None"
  | .value (.arr elements) =>
    let location ← sketchLocation? d buildDir
    let base := Path.resolve d.cwd sketchDir (location.getD sketchDir)
    let result ← entriesOf d.cwd base (← tasks 0 elements)
    Noted.info ("Reconstructed " ++ Text.ofNat result.length ++ " entries from " ++ path)
    return result
  | .value _ =>
    Noted.warning ("Build cache " ++ path ++ " is not an array, ignoring")
    return []

end BuildCache

end SketchBuild
