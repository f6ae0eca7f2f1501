import SketchBuild.Entry
import SketchBuild.Flags.Include
import SketchBuild.Flags.Prefixed

namespace SketchBuild.Flags

def defaultHeader : Text := "Arduino.h"

def forcedFlag : Text := "-include"

def namesHeader (header value : Text) : Bool :=
  value = header || Path.baseName (value.map fun c => if c = '\\' then '/' else c) = header

def forcesHeader (header : Text) : List Text → Bool
  | [] => false
  | argument :: rest =>
    (argument = forcedFlag && rest.head?.any (namesHeader header)) ||
      (match Text.dropPrefix? forcedFlag argument with
        | some (c :: value) => namesHeader header (c :: value)
        | _ => false) ||
      forcesHeader header rest

/-- The arguments with the header forced, behind the executable. -/
def forceHeader (header : Text) (arguments : List Text) : List Text :=
  match arguments with
  | [] => []
  | executable :: rest =>
    if forcesHeader header arguments then arguments
    else executable :: forcedFlag :: header :: rest

def normalize (d : Disk) (base header : Text) (arguments : List Text) : Noted (List Text) := do
  let expanded ← expand d base arguments
  let flat ← resolvePrefixes d base expanded
  let result := forceHeader header (resolveIncludes d.cwd base flat)
  if result.length ≠ arguments.length then
    Noted.debug ("Normalized " ++ Text.ofNat arguments.length ++ " arguments to " ++
      Text.ofNat result.length)
  return result

def normalizeEntry (d : Disk) (header : Text) (e : Entry) : Noted Entry :=
  e.withArguments <$> normalize d e.directory header e.arguments

end SketchBuild.Flags
