import SketchBuild.Disk.Walk
import SketchBuild.Journal
import SketchBuild.Path.Basic
import SketchBuild.Path.Resolve

namespace SketchBuild

abbrev ProjectIndex := Table Text Text

namespace ProjectIndex

def skippedDirs : List Text := [".git", ".svn", ".hg", "node_modules", "__pycache__"]

def enters (excluded : List Text) (dir name : Text) : Bool :=
  name ∉ skippedDirs && name.head? ≠ some '.' && Path.normalize (Path.join dir name) ∉ excluded

def filesBelow (d : Disk) (excluded : List Text) (root : Text) : List (Text × Text) :=
  match d.node? root with
  | some node => node.files (enters excluded) root
  | none => []

def addRoot (d : Disk) (excluded : List Text) (index : ProjectIndex) (root : Text) :
    Noted ProjectIndex :=
  if d.isDir root then do
    Noted.tell (.walked root)
    return (filesBelow d excluded root).foldl (fun t (name, path) => Table.putNew name path t) index
  else do
    Noted.tell (.looked root)
    Noted.debug ("Project root does not exist, skipping: " ++ root)
    return index

def addRoots (d : Disk) (excluded : List Text) (index : ProjectIndex) :
    List Text → Noted ProjectIndex
  | [] => pure index
  | root :: roots => do
    let index ← addRoot d excluded index root
    addRoots d excluded index roots

def build (d : Disk) (boundary : Path.Boundary) (excludedDirs : List Text) : Noted ProjectIndex := do
  let excluded := (excludedDirs.filter (· ≠ [])).map (Path.absolute d.cwd)
  let index ← addRoots d excluded [] boundary.roots
  Noted.debug ("Indexed " ++ Text.ofNat index.length ++ " project files")
  return index

def lookup? (index : ProjectIndex) (name : Text) : Option Text := Table.find? name index

def originNames (path : Text) : List Text := (Path.sketchName? path).toList ++ [Path.baseName path]

def origin? (index : ProjectIndex) (buildDir path : Text) : Option Text :=
  if buildDir = [] || !Path.isUnder path buildDir then none
  else (originNames path).findSome? fun name => (index.lookup? name).filter (· ≠ [])

def retarget (index : ProjectIndex) (buildDir path : Text) : Noted Text :=
  match index.origin? buildDir path with
  | some found => do
    Noted.debug ("Retargeted " ++ path ++ " -> " ++ found)
    return found
  | none => return path

end ProjectIndex

end SketchBuild
