import SketchBuild.Json.Basic
import SketchBuild.Path.Resolve
import SketchBuild.Text.Digit

/-!
Diagnostics of a compiler, and the lines in which it prints them:
`path:line:column: severity: message`, where the position may be partly missing.
-/

namespace SketchBuild

inductive Severity where
  | error
  | warning
  deriving DecidableEq

def Severity.name : Severity → Text
  | .error => "Error"
  | .warning => "Warning"

structure Diagnostic where
  severity : Severity
  message : Text
  file : Text
  line : Nat
  column : Nat
  code : Option Text := none
  deriving DecidableEq

namespace Diagnostic

def toJson (r : Diagnostic) : Json :=
  .obj [("severity", .str r.severity.name), ("message", .str r.message), ("line", .int r.line),
    ("column", .int r.column), ("code", (r.code.map Json.str).getD .null)]

/-- The words for severities. A note belongs to the diagnostic before it and is none itself. -/
def severityWords : List (Text × Option Severity) :=
  [("fatal error", some .error), ("error", some .error), ("warning", some .warning), ("note", none)]

structure Tail where
  line : Option Text
  column : Option Text
  severity : Option Severity
  message : Text
  deriving DecidableEq

def number? (s : Text) : Option Text × Text :=
  match s.takeWhile Text.isDigit, s.dropWhile Text.isDigit with
  | [], _ => (none, s)
  | digits, ':' :: rest => (some digits, rest)
  | _, _ => (none, s)

def severity? (s : Text) : Option (Option Severity × Text) :=
  severityWords.findSome? fun (word, severity) =>
    (Text.dropPrefix? (word ++ [':']) s).map (severity, ·)

def tail? (s : Text) : Option Tail :=
  let (line, s) := number? s
  let (column, s) := number? s
  match severity? (Text.stripLeft s) with
  | none => none
  | some (severity, rest) =>
    let message := Text.stripLeft rest
    if message.contains '\n' then none else some { line, column, severity, message }

def split? : Text → Option (Text × Tail)
  | [] => none
  | c :: s =>
    if c = '\n' then none
    else
      let longer := (split? s).map fun (path, tail) => (c :: path, tail)
      match s with
      | ':' :: rest =>
        match tail? rest with
        | some tail => some ([c], tail)
        | none => longer
      | _ => longer

def chainWords : List Text := ["In file included from", "from "]

def isChainLine (line : Text) : Bool := chainWords.any (·.isPrefixOf (Text.stripLeft line))

def looksLikeFile (path : Text) : Bool :=
  path.contains '/' || path.contains '\\' || Path.hasExtension path

/-- A line or column number, one where it is missing, zero or has too many digits. -/
def position (digits : Option Text) : Nat :=
  match digits with
  | none => 1
  | some digits => if Text.maxDigits < digits.length then 1 else max 1 (Text.digitsValue digits)

/-- The name in a message's final `[-W…]`, the one that starts first. -/
def code? : Text → Option Text
  | [] => none
  | c :: s =>
    let found := do
      let rest ← Text.dropPrefix? "[-W" (c :: s)
      let inside (c : Char) : Bool := c ≠ ']' && !Text.isBlank c
      let name := rest.takeWhile inside
      let final := rest.dropWhile inside
      if name ≠ [] && final.head? = some ']' && final.tail.all Text.isBlank then some name else none
    found.or (code? s)

inductive Line where
  | diagnostic (r : Diagnostic)
  | badPath
  | other
  deriving DecidableEq

def readLine (cwd workingDir line : Text) : Line :=
  if isChainLine line then .other
  else match split? (Text.strip line) with
    | none => .other
    | some (path, tail) =>
      match tail.severity with
      | none => .other
      | some severity =>
        let path := Text.strip path
        if path = [] || Path.isBareDrive path then .badPath
        else if tail.line.isNone && !looksLikeFile path then .other
        else
          let message := Text.strip tail.message
          .diagnostic {
            severity
            message
            file := Path.resolve cwd workingDir path
            line := position tail.line
            column := position tail.column
            code := code? message
          }

def ofLine? (cwd workingDir line : Text) : Option Diagnostic :=
  match readLine cwd workingDir line with
  | .diagnostic r => some r
  | _ => none

end Diagnostic

end SketchBuild
