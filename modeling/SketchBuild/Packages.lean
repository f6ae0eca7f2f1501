import SketchBuild.Palette
import SketchBuild.Table
import SketchBuild.Text.Printable
import SketchBuild.Version

namespace SketchBuild.Packages

abbrev Versions := Table Text Text

def Versions.get? (name : Text) (v : Versions) : Option Text := Table.find? name v

def required : List Text := ["packaging"]

def optional : List Text := ["colorama"]

def leastVersions : Versions := [("packaging", "24.0"), ("colorama", "0.4.6")]

def hint (name least : Text) (upgrade : Bool) : Text :=
  "pip install " ++ (if upgrade then "--upgrade " else "") ++ "'" ++ name ++ ">=" ++ least ++ "'"

inductive Problem where
  | noRequirement (name : Text)
  | notInstalled (name least : Text)
  | tooOld (name version least : Text)
  | invalidVersion (version : Text)
  | oversized (digits : Nat)
  deriving DecidableEq

def Problem.message : Problem → Text
  | .noRequirement name => "No version requirement specified for " ++ name
  | .notInstalled name least =>
    name ++ " is not installed. Install with: " ++ hint name least false
  | .tooOld name version least =>
    name ++ " " ++ version ++ " is too old (need >=" ++ least ++ "). Upgrade with: " ++
      hint name least true
  | .invalidVersion version => "Invalid version: " ++ Text.literal version
  | .oversized digits => Text.oversizedMessage digits

inductive Status where
  | missing
  | old (version : Text)
  | usable (version : Text)
  deriving DecidableEq

def parse (s : Text) : Except Problem Version :=
  match Version.read s with
  | .ok v => .ok v
  | .error .malformed => .error (.invalidVersion s)
  | .error (.oversized digits) => .error (.oversized digits)

def status (installed : Versions) (name least : Text) : Except Problem Status := do
  match installed.get? name with
  | none => return .missing
  | some version =>
    let v ← parse version
    let w ← parse least
    return if v.isBefore w then .old version else .usable version

/-- The state of a package; `strict` makes a problem of one that is missing or too old. -/
def check (installed requirements : Versions) (name : Text) (least : Option Text) (strict : Bool) :
    Except Problem Status := do
  match least.or (requirements.get? name) with
  | none => throw (.noRequirement name)
  | some least =>
    match ← status installed name least, strict with
    | .missing, true => throw (.notInstalled name least)
    | .old version, true => throw (.tooOld name version least)
    | s, _ => return s

def statusNote (name least : Text) : Status → List Note
  | .missing => []
  | .old version | .usable version =>
    [.logged .debug (name ++ " " ++ version ++ " (need >=" ++ least ++ ")")]

def require (p : Palette) (installed requirements : Versions) (name context : Text) :
    Noted (Except Problem Bool) := do
  match requirements.get? name with
  | none =>
    p.print .error true ("Unknown package '" ++ name ++ "' - no version requirement defined")
    return .ok false
  | some least =>
    match status installed name least with
    | .error problem => return .error problem
    | .ok s =>
      Noted.tellAll (statusNote name least s)
      match s with
      | .usable _ => return .ok true
      | .old version =>
        p.print .error true (name ++ " " ++ version ++ " is too old for " ++ context ++ ".")
        Noted.printLine .err ("Upgrade with: " ++ hint name least true)
        return .ok false
      | .missing =>
        p.print .error true (name ++ " is required for " ++ context ++ ".")
        Noted.printLine .err ("Install with: " ++ hint name least false)
        return .ok false

def statusText (name least : Text) : Status → Text
  | .missing => name ++ " not installed"
  | .old version => name ++ " " ++ version ++ " (need >=" ++ least ++ ")"
  | .usable version => name ++ " " ++ version

def report (p : Palette) (installed requirements : Versions) (name : Text) :
    ExceptT Problem Noted Bool := do
  let s ← ExceptT.mk (pure (check installed requirements name none false))
  let least := (requirements.get? name).getD []
  Noted.tellAll (statusNote name least s)
  let text : Text := "  " ++ statusText name least s
  match s with
  | .usable _ =>
    p.print .success false text
    return true
  | _ =>
    if name ∈ optional then p.print .warning false (text ++ " (optional)")
    else p.print .error false text
    return false

def reportAll (p : Palette) (installed requirements : Versions) :
    List Text → ExceptT Problem Noted (List Text)
  | [] => pure []
  | name :: names => do
    let usable ← report p installed requirements name
    let rest ← reportAll p installed requirements names
    return if usable || name ∈ optional then rest else name :: rest

def checkAll (p : Palette) (installed requirements : Versions) : ExceptT Problem Noted Bool := do
  Noted.printLine .out "sketch-check package verification"
  match ← reportAll p installed requirements (required ++ optional) with
  | [] =>
    p.print .success false "All required packages are available"
    return true
  | missing =>
    p.print .error false "Some required packages are missing or too old"
    let hints := missing.map fun name => hint name ((requirements.get? name).getD []) false
    Noted.printLine .out ("Install with: " ++ [' '].intercalate hints)
    return false

end SketchBuild.Packages
