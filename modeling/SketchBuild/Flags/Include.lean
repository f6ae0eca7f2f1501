import SketchBuild.Path.Resolve

namespace SketchBuild.Flags

def includeFlags : List Text := ["-I", "-isystem", "-iquote", "-idirafter"]

/-- A piece of an argument list: a flag with the next argument as its value, a flag with its value
behind it, or any other argument. -/
inductive Piece where
  | pair (flag value : Text)
  | fused (flag value : Text)
  | other (argument : Text)
  deriving DecidableEq

namespace Piece

def single (argument : Text) : Piece :=
  let fusedWith (flag : Text) : Option Piece :=
    match Text.dropPrefix? flag argument with
    | some (c :: value) => some (.fused flag (c :: value))
    | _ => none
  (includeFlags.findSome? fusedWith).getD (.other argument)

def split : List Text → List Piece
  | [] => []
  | [argument] => [single argument]
  | argument :: next :: rest =>
    if argument ∈ includeFlags then .pair argument next :: split rest
    else single argument :: split (next :: rest)

def arguments : Piece → List Text
  | .pair flag value => [flag, value]
  | .fused flag value => [flag ++ value]
  | .other argument => [argument]

def value? : Piece → Option Text
  | .pair _ value | .fused _ value => some value
  | .other _ => none

def mapValue (f : Text → Text) : Piece → Piece
  | .pair flag value => .pair flag (f value)
  | .fused flag value => .fused flag (f value)
  | .other argument => .other argument

end Piece

/-- Whether a value names a directory by itself; one that starts with an equals sign is read from
the compiler's own root. -/
def isFixed (value : Text) : Bool := value = [] || value.head? = some '=' || Path.isAbsolute value

def resolveIncludes (cwd base : Text) (arguments : List Text) : List Text :=
  if base = [] then arguments
  else
    let place (value : Text) : Text := if isFixed value then value else Path.resolve cwd base value
    (Piece.split arguments).flatMap fun piece => (piece.mapValue place).arguments

end SketchBuild.Flags
