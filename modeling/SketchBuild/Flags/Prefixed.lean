import SketchBuild.Disk.Walk
import SketchBuild.Flags.Response

/-!
Include prefixes: `-iprefix` names a directory, and the `-iwithprefixbefore` and `-iwithprefix`
flags that follow it at once name directories below it. They become plain `-I` and
`-idirafter` flags.
-/

namespace SketchBuild.Flags

def prefixFlag : Text := "-iprefix"

def beforeFlag : Text := "-iwithprefixbefore"

def afterFlag : Text := "-iwithprefix"

def attached? (flag argument : Text) : Option Text :=
  match Text.dropPrefix? flag argument with
  | some ('=' :: value) => some value
  | some (c :: value) => some (c :: value)
  | _ => none

def value? (flag argument : Text) (next : Option Text) : Option (Text × Bool) :=
  if argument = flag then next.map (·, true) else (attached? flag argument).map (·, false)

def isSeparator (c : Char) : Bool := c = '/' || c = '\\'

/-- A prefix with a name below it, joined by a separator of the prefix's own kind. -/
def joinPrefix (dir name : Text) : Text :=
  if dir.getLast?.any isSeparator || name.head?.any isSeparator then dir ++ name
  else if dir.contains '\\' && !dir.contains '/' then dir ++ '\\' :: name
  else dir ++ '/' :: name

def prefixDir (cwd base value : Text) : Text :=
  if base = [] || Path.isAbsolute value then value
  else Path.resolve cwd base value ++ (value.getLast?.filter isSeparator).toList

/-- What is done with an argument: it sets the prefix, is replaced, or stays and ends the prefix.
The next argument goes with it when it holds the value. -/
inductive Move where
  | setPrefix (value : Text) (withNext : Bool)
  | replace (argument : Text) (withNext : Bool)
  | keep
  deriving DecidableEq

def move (active : Option Text) (argument : Text) (next : Option Text) : Move :=
  match value? prefixFlag argument next, active with
  | some (value, withNext), _ => .setPrefix value withNext
  | none, none => .keep
  | none, some dir =>
    match value? beforeFlag argument next, value? afterFlag argument next with
    | some (name, withNext), _ => .replace ("-I" ++ joinPrefix dir name) withNext
    | none, some (name, withNext) => .replace ("-idirafter" ++ joinPrefix dir name) withNext
    | none, none => .keep

def emit (argument : Text) (rest : Noted (Option (List Text))) : Noted (Option (List Text)) :=
  Option.map (argument :: ·) <$> rest

/-- The arguments without prefix flags. A reference behind a prefix is replaced by its arguments,
and `splice` goes on with them. -/
def scanPrefixes (d : Disk) (base : Text)
    (splice : Text → List Text → Noted (Option (List Text))) :
    Option Text → List Text → Noted (Option (List Text))
  | _, [] => pure (some [])
  | active, argument :: rest =>
    match active, reference? argument with
    | some dir, some _ => do
      let arguments ← expand d base [argument]
      if arguments = [argument] then emit argument (scanPrefixes d base splice none rest)
      else splice dir (arguments ++ rest)
    | _, _ =>
      match move active argument rest.head?, rest with
      | .setPrefix value true, _ :: rest =>
        scanPrefixes d base splice (some (prefixDir d.cwd base value)) rest
      | .setPrefix value _, rest =>
        scanPrefixes d base splice (some (prefixDir d.cwd base value)) rest
      | .replace argument true, _ :: rest => emit argument (scanPrefixes d base splice active rest)
      | .replace argument _, rest => emit argument (scanPrefixes d base splice active rest)
      | .keep, rest => emit argument (scanPrefixes d base splice none rest)

def resolveWithin (d : Disk) (base : Text) :
    Nat → Option Text → List Text → Noted (Option (List Text))
  | 0 => scanPrefixes d base fun _ _ => pure none
  | n + 1 => scanPrefixes d base fun dir arguments => resolveWithin d base n (some dir) arguments

/-- How many references may have to be replaced. There are no more words than characters; a
reference gives way to the words of files nested to the full depth, and replacing never ends if it
comes up among these again. -/
@[irreducible] def spliceBound (d : Disk) (arguments : List Text) : Nat :=
  let words := d.root.size + arguments.length + 2
  Nat.pow words ((maxDepth + 1) * words)

/-- The arguments without prefix flags; they stay as they are where replacing references would
never end. -/
def resolvePrefixes (d : Disk) (base : Text) (arguments : List Text) : Noted (List Text) :=
  (·.getD arguments) <$> resolveWithin d base (spliceBound d arguments) none arguments

end SketchBuild.Flags
