import SketchBuild.Path.Basic
import SketchBuild.Table
import SketchBuild.Text.Printable

/-!
A disk is a tree of directories with a current directory. Paths are walked component by component:
every directory on the way has to exist, also one that `..` leaves again.
-/

namespace SketchBuild

inductive Node where
  | file (bytes : List UInt8)
  | dir (members : List (Text × Node))

namespace Node

def member? (name : Text) : Node → Option Node
  | .file _ => none
  | .dir members => Table.find? name members

def find? (n : Node) : List Text → Option Node
  | [] => some n
  | name :: location => (n.member? name).bind (find? · location)

def modify (f : Table Text Node → Table Text Node) : Node → List Text → Node
  | .file bytes, _ => .file bytes
  | .dir members, [] => .dir (f members)
  | .dir members, name :: location =>
    match Table.find? name members with
    | some n => .dir (Table.put name (modify f n location) members)
    | none => .dir members

end Node

structure Disk where
  root : Node
  here : List Text

namespace Disk

def cwd (d : Disk) : Text := '/' :: ['/'].intercalate d.here

inductive Cause where
  | missing
  | exists
  | notDirectory
  | isDirectory
  | busy
  deriving DecidableEq

inductive Place where
  | taken (location : List Text) (node : Node)
  | free (dir : List Text) (name : Text)

def walk (d : Disk) (location : List Text) (parts : List Text) : Except Cause Place :=
  match d.root.find? location, parts with
  | none, _ => .error .missing
  | some node, [] => .ok (.taken location node)
  | some (.file _), _ :: _ => .error .notDirectory
  | some (.dir members), part :: rest =>
    if part = ['.'] then walk d location rest
    else if part = ['.', '.'] then walk d location.dropLast rest
    else if rest = [] && (Table.find? part members).isNone then .ok (.free location part)
    else walk d (location ++ [part]) rest

/-- The components of a path that is looked up; a slash at the end asks for a directory. -/
def steps (path : Text) : List Text :=
  (Text.pieces '/' path).filter (· ≠ [])

def origin (d : Disk) (path : Text) : List Text := if path.head? = some '/' then [] else d.here

def asksDirectory (path : Text) : Bool := path.getLast? = some '/'

def place (d : Disk) (path : Text) : Except Cause Place :=
  if path = [] then .error .missing
  else match walk d (origin d path) (steps path) with
    | .ok (.taken location (.file bytes)) =>
      if asksDirectory path then .error .notDirectory else .ok (.taken location (.file bytes))
    | r => r

def node? (d : Disk) (path : Text) : Option Node :=
  match d.place path with
  | .ok (.taken _ node) => some node
  | _ => none

def exists? (d : Disk) (path : Text) : Bool := (d.node? path).isSome

def isFile (d : Disk) (path : Text) : Bool :=
  match d.node? path with
  | some (.file _) => true
  | _ => false

def isDir (d : Disk) (path : Text) : Bool :=
  match d.node? path with
  | some (.dir _) => true
  | _ => false

structure Error where
  cause : Cause
  path : Text
  target : Option Text := none
  deriving DecidableEq

def Cause.message : Cause → Text
  | .missing => "[Errno 2] No such file or directory"
  | .exists => "[Errno 17] File exists"
  | .notDirectory => "[Errno 20] Not a directory"
  | .isDirectory => "[Errno 21] Is a directory"
  | .busy => "[Errno 16] Device or resource busy"

def Error.message (e : Error) : Text :=
  e.cause.message ++ ": " ++ Text.literal e.path ++
    match e.target with
    | none => []
    | some target => " -> " ++ Text.literal target

end Disk

end SketchBuild
