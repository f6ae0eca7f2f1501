import SketchBuild.Command.Words
import SketchBuild.Path.Resolve
import SketchBuild.Storage

namespace SketchBuild.Flags

def reference? : Text → Option Text
  | '@' :: c :: path => some (c :: path)
  | _ => none

def maxDepth : Nat := 8

/-- The arguments that one argument stands for. A reference is kept when its file is one of those
being read, cannot be read, or lies too deep; `nested` reads the arguments in a file. -/
def expandArgument (d : Disk) (base : Text) (reading : List Text)
    (nested : Option (List Text → List Text → Noted (List Text))) (argument : Text) :
    Noted (List Text) :=
  match reference? argument with
  | none => pure [argument]
  | some name =>
    let path := Path.resolve d.cwd base name
    let key := Path.normalize path
    match nested with
    | some expand =>
      if key ∈ reading then refuse path
      else do
        match ← Storage.readText d path with
        | some content => expand (reading ++ [key]) (Command.words content)
        | none =>
          Noted.debug ("Response file not readable, keeping token: " ++ argument)
          return [argument]
    | none => refuse path
where
  refuse (path : Text) : Noted (List Text) := do
    Noted.debug ("Not following response file " ++ path ++ " (cycle or depth limit)")
    return [argument]

def expandWithin (d : Disk) (base : Text) : Nat → List Text → List Text → Noted (List Text)
  | 0, reading, arguments => Noted.flatMap (expandArgument d base reading none) arguments
  | n + 1, reading, arguments =>
    Noted.flatMap (expandArgument d base reading (some (expandWithin d base n))) arguments

def expand (d : Disk) (base : Text) (arguments : List Text) : Noted (List Text) :=
  expandWithin d base maxDepth [] arguments

end SketchBuild.Flags
