import SketchBuild.Text.Basic

namespace SketchBuild.Path

/-- How many slashes a normalized path starts with: exactly two are kept, three or more are one. -/
def rootSlashes : Text → Nat
  | '/' :: '/' :: '/' :: _ => 1
  | '/' :: '/' :: _ => 2
  | '/' :: _ => 1
  | _ => 0

/-- Adds a component to a stack of components, top first; `..` takes one off where it can. -/
def push (rooted : Bool) (stack : List Text) (part : Text) : List Text :=
  if part = [] || part = ['.'] then stack
  else if part = ['.', '.'] then
    match stack with
    | [] => if rooted then [] else [part]
    | top :: below => if top = ['.', '.'] then part :: stack else below
  else part :: stack

def components (rooted : Bool) (path : Text) : List Text :=
  ((Text.pieces '/' path).foldl (push rooted) []).reverse

def normalize (path : Text) : Text :=
  let slashes := rootSlashes path
  match List.replicate slashes '/' ++ ['/'].intercalate (components (slashes != 0) path) with
  | [] => ['.']
  | p => p

def join (dir path : Text) : Text :=
  if path.head? = some '/' then path
  else if dir = [] || dir.getLast? = some '/' then dir ++ path
  else dir ++ '/' :: path

def baseName (path : Text) : Text := (path.reverse.takeWhile (· ≠ '/')).reverse

def parent (path : Text) : Text :=
  let head := path.reverse.dropWhile (· ≠ '/')
  if head.all (· = '/') then head else (head.dropWhile (· = '/')).reverse

/-- Whether the last component has a dot after its first character that is no dot. -/
def hasExtension (path : Text) : Bool := ((baseName path).dropWhile (· = '.')).contains '.'

def absolute (cwd path : Text) : Text := normalize (join cwd path)

def sourceExtensions : List Text :=
  [".ino.cpp", ".ino", ".c", ".cc", ".cpp", ".cxx", ".m", ".mm", ".s", ".sx", ".S"]

def sketchExtensions : List Text := [".ino", ".pde"]

def isSource (path : Text) : Bool := sourceExtensions.any (·.isSuffixOf path)

/-- The sketch that a generated file was made from: its base name without the final `.cpp`. -/
def sketchName? (path : Text) : Option Text :=
  (Text.dropSuffix? ".cpp" (baseName path)).filter fun stem => sketchExtensions.any (·.isSuffixOf stem)

end SketchBuild.Path
