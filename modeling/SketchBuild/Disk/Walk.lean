import SketchBuild.Disk.Basic

namespace SketchBuild.Node

def sortByName {α : Type} (rows : List (Text × α)) : List (Text × α) :=
  rows.mergeSort fun a b => Text.isUpTo a.1 b.1

def fileNames : List (Text × Node) → List Text
  | [] => []
  | (name, .file _) :: rest => name :: fileNames rest
  | (_, .dir _) :: rest => fileNames rest

mutual

/-- The files below a node at a path, as names and paths; `enters` decides, for the path of a
directory and the name of a member, which members are visited. -/
def files (enters : Text → Text → Bool) (path : Text) : Node → List (Text × Text)
  | .file _ => []
  | .dir members =>
    (sortByName ((fileNames members).map fun name => (name, Path.join path name))) ++
      (sortByName (subdirectories enters path members)).flatMap Prod.snd

def subdirectories (enters : Text → Text → Bool) (path : Text) :
    List (Text × Node) → List (Text × List (Text × Text))
  | [] => []
  | (_, .file _) :: rest => subdirectories enters path rest
  | (name, .dir members) :: rest =>
    if enters path name then
      (name, files enters (Path.join path name) (.dir members)) :: subdirectories enters path rest
    else subdirectories enters path rest

end

mutual

/-- The paths of all that is below a node; those of directories end in a slash. -/
def paths (above : Text) : Node → List Text
  | .file _ => [above]
  | .dir members => (above ++ ['/']) :: memberPaths (above ++ ['/']) members

def memberPaths (above : Text) : List (Text × Node) → List Text
  | [] => []
  | (name, n) :: rest => paths (above ++ name) n ++ memberPaths above rest

end

mutual

def size : Node → Nat
  | .file bytes => bytes.length
  | .dir members => memberSize members

def memberSize : List (Text × Node) → Nat
  | [] => 0
  | (_, n) :: rest => size n + memberSize rest

end

def listing : Node → List Text
  | .file _ => []
  | .dir members => (memberPaths [] members).mergeSort Text.isUpTo

end SketchBuild.Node
