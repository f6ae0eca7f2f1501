import SketchBuild.Command.Words
import SketchBuild.Json.Basic
import SketchBuild.Path.Resolve

namespace SketchBuild

/-- A source file to compile. `command` is the command line of an entry that is stored as one. -/
structure Entry where
  directory : Text
  file : Text
  arguments : List Text
  command : Option Text := none
  deriving DecidableEq

namespace Entry

def usesCommand (e : Entry) : Bool := e.command.isSome

def path (cwd : Text) (e : Entry) : Text := Path.resolve cwd e.directory e.file

def key (e : Entry) : Text × Text := (Path.normalize e.directory, Path.normalize e.file)

def withArguments (e : Entry) (arguments : List Text) : Entry :=
  { e with arguments, command := if e.usesCommand then some (Command.line arguments) else none }

def toJson (e : Entry) : Json :=
  .obj [("directory", .str e.directory), ("file", .str e.file),
    if e.usesCommand then ("command", .str (Command.line e.arguments))
    else ("arguments", .arr (e.arguments.map .str))]

inductive Fault where
  | notObject (kind : Text)
  | noDirectory
  | noFile
  | form
  | commandKind
  | commandEmpty
  | argumentsKind
  | argumentsEmpty
  deriving DecidableEq

def Fault.message : Fault → Text
  | .notObject kind => "entry is not an object: " ++ kind
  | .noDirectory => "entry has no 'directory'"
  | .noFile => "entry has no 'file'"
  | .form => "entry must have exactly one of 'arguments' or 'command'"
  | .commandKind => "'command' is not a string"
  | .commandEmpty => "'command' is empty"
  | .argumentsKind => "'arguments' is not a list of strings"
  | .argumentsEmpty => "'arguments' is empty"

def ofArguments (directory file : Text) (v : Json) : Except Fault Entry :=
  match v.items?.bind fun items => items.mapM Json.text? with
  | none => .error .argumentsKind
  | some [] => .error .argumentsEmpty
  | some arguments => .ok { directory, file, arguments }

def ofCommand (directory file : Text) (v : Json) : Except Fault Entry :=
  match v.text? with
  | none => .error .commandKind
  | some command =>
    match Command.words command with
    | [] => .error .commandEmpty
    | arguments => .ok { directory, file, arguments, command := some command }

def ofJson (v : Json) : Except Fault Entry :=
  match v with
  | .obj _ =>
    match (v.textAt? "directory").filter (· ≠ []), (v.textAt? "file").filter (· ≠ []) with
    | none, _ => .error .noDirectory
    | some _, none => .error .noFile
    | some directory, some file =>
      match v.member? "arguments", v.member? "command" with
      | some arguments, none => ofArguments directory file arguments
      | none, some command => ofCommand directory file command
      | _, _ => .error .form
  | v => .error (.notObject v.kindName)

end Entry

end SketchBuild
