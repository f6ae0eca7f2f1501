import SketchBuild.Path.Basic

namespace SketchBuild.Path

def collapse : Text → Text
  | [] => []
  | c :: s => if c = '/' && s.head? = some '/' then collapse s else c :: collapse s

/-- The form of an include directory: no quotes, slashes for backslashes, and single slashes apart
from two at the start. -/
def tidy (path : Text) : Text :=
  match ((Text.strip path).filter (· ≠ '"')).map fun c => if c = '\\' then '/' else c with
  | '/' :: '/' :: s => '/' :: '/' :: collapse s
  | s => collapse s

def isDriveRooted : Text → Bool
  | c :: ':' :: s :: _ => c.isAlpha && (s = '/' || s = '\\')
  | _ => false

def isAbsolute (path : Text) : Bool :=
  path.head? = some '/' || path.head? = some '\\' || isDriveRooted path

def isBareDrive (path : Text) : Bool :=
  match Text.strip path with
  | [c, ':'] => c.isAlpha
  | _ => false

/-- Where a path leads from a base directory, or from the current one when the base is empty. A
path on a drive is only tidied. -/
def resolve (cwd base path : Text) : Text :=
  if isDriveRooted path then tidy path
  else if isAbsolute path then normalize path
  else absolute (if base = [] then cwd else base) path

def isUnder (path root : Text) : Bool :=
  let p := normalize path
  let r := normalize root
  p = r || (Text.stripEnd '/' r ++ ['/']).isPrefixOf p

structure Boundary where
  roots : List Text
  deriving DecidableEq

def Boundary.of (cwd : Text) (dirs : List Text) : Boundary :=
  { roots := (dirs.filter (· ≠ [])).map (absolute cwd) }

def Boundary.contains (b : Boundary) (path : Text) : Bool := b.roots.any (isUnder path)

end SketchBuild.Path
