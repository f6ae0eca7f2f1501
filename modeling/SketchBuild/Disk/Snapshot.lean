import SketchBuild.Disk.Change

namespace SketchBuild.Disk

def advance (location : List Text) (part : Text) : List Text :=
  if part = ['.'] then location
  else if part = ['.', '.'] then location.dropLast
  else location ++ [part]

def trailFrom (location : List Text) : List Text → List (List Text)
  | [] => [location]
  | part :: rest => location :: trailFrom (advance location part) rest

def trail (d : Disk) (path : Text) : List (List Text) := trailFrom (d.origin path) (steps path)

/-- The disk with what is known to stand at a location; the members of a directory stay. -/
def learn (d : Disk) (location : List Text) (node : Node) : Disk :=
  match d.root.find? location, node with
  | some (.dir _), .dir _ => d
  | _, node => d.setAt location node

def learnNew (d : Disk) (location : List Text) (node : Node) : Disk :=
  if (d.root.find? location).isNone then d.setAt location node else d

/-- A disk of which nothing is known but the way to its current directory. -/
def unexplored (here : List Text) : Disk where
  root := here.foldr (fun name node => .dir [(name, node)]) (.dir [])
  here := here

inductive Change where
  | makeDir (location : List Text)
  | write (location : List Text) (bytes : List UInt8)
  | remove (location : List Text)
  deriving DecidableEq

def memberNames : Option Node → List Text
  | some (.dir members) => Table.keys members
  | _ => []

def removals (location : List Text) (before : Option Node) (members : List (Text × Node)) :
    List Change :=
  ((memberNames before).filter (· ∉ Table.keys members)).map fun name => .remove (location ++ [name])

mutual

def changesTo (location : List Text) (before : Option Node) : Node → List Change
  | .file bytes =>
    match before with
    | some (.file old) => if old = bytes then [] else [.write location bytes]
    | _ => [.write location bytes]
  | .dir members =>
    let made : List Change := match before with
      | some (.dir _) => []
      | _ => [.makeDir location]
    made ++ removals location before members ++ changesOf location before members

def changesOf (location : List Text) (before : Option Node) : List (Text × Node) → List Change
  | [] => []
  | (name, n) :: rest =>
    changesTo (location ++ [name]) (before.bind (·.member? name)) n ++ changesOf location before rest

end

def changes (before after : Disk) : List Change := changesTo [] (some before.root) after.root

end SketchBuild.Disk
