import SketchBuild.Diagnostic.Record
import SketchBuild.Journal
import SketchBuild.Table

namespace SketchBuild.Diagnostic

structure Policy where
  hidesOutsideWarnings : Bool := true
  showsOutside : Bool := false
  deriving DecidableEq

def Policy.ofOptions (allowOutside showOutsideWarnings : Bool) : Policy where
  hidesOutsideWarnings := !showOutsideWarnings
  showsOutside := allowOutside

def Policy.shows (p : Policy) (boundary : Path.Boundary) (r : Diagnostic) : Bool :=
  boundary.contains r.file ||
    (p.showsOutside && !(r.severity = .warning && p.hidesOutsideWarnings))

/-- How far a color sequence has been read; `held` are its parameters. -/
inductive EscapeMode where
  | plain
  | escape
  | sequence (held : Text)
  deriving DecidableEq

def isParameter (c : Char) : Bool := c.isDigit || c = ';' || c = '?'

def dropColors : EscapeMode → Text → Text
  | .plain, [] => []
  | .escape, [] => ['\x1b']
  | .sequence held, [] => '\x1b' :: '[' :: held
  | .plain, c :: s => if c = '\x1b' then dropColors .escape s else c :: dropColors .plain s
  | .escape, c :: s =>
    if c = '[' then dropColors (.sequence []) s
    else if c = '\x1b' then '\x1b' :: dropColors .escape s
    else '\x1b' :: c :: dropColors .plain s
  | .sequence held, c :: s =>
    if isParameter c then dropColors (.sequence (held ++ [c])) s
    else if c.isAlpha then dropColors .plain s
    else if c = '\x1b' then '\x1b' :: '[' :: held ++ dropColors .escape s
    else '\x1b' :: '[' :: held ++ c :: dropColors .plain s

def outputLines (text : Text) : List Text :=
  Text.lines (dropColors .plain (Text.unifyNewlines text))

structure Scan where
  byFile : Table Text (List Diagnostic) := []
  errors : Nat := 0
  warnings : Nat := 0
  dropped : Nat := 0
  deriving DecidableEq

namespace Scan

def fileCount (s : Scan) : Nat := s.byFile.length

def count (s : Scan) : Nat := s.errors + s.warnings

def add (s : Scan) (r : Diagnostic) : Scan :=
  { s with
    byFile := Table.alter r.file (fun rs => rs.getD [] ++ [r]) s.byFile
    errors := s.errors + if r.severity = .error then 1 else 0
    warnings := s.warnings + if r.severity = .warning then 1 else 0 }

def step (boundary : Path.Boundary) (policy : Policy) (s : Scan) (r : Diagnostic) : Scan :=
  if policy.shows boundary r then s.add r else { s with dropped := s.dropped + 1 }

def ofList (boundary : Path.Boundary) (policy : Policy) (rs : List Diagnostic) : Scan :=
  rs.foldl (step boundary policy) {}

end Scan

def ofText (cwd workingDir text : Text) : List Diagnostic :=
  (outputLines text).filterMap (ofLine? cwd workingDir)

def scanText (cwd workingDir : Text) (boundary : Path.Boundary) (policy : Policy)
    (text : Text) : Scan :=
  if text = [] then {} else .ofList boundary policy (ofText cwd workingDir text)

def lineNotes (cwd workingDir line : Text) : List Note :=
  match readLine cwd workingDir line with
  | .badPath => [.logged .debug ("Rejecting diagnostic with invalid path: " ++ line)]
  | _ => []

def Scan.note (s : Scan) : Note :=
  .logged .debug ("Extracted " ++ Text.ofNat s.count ++ " diagnostics (" ++ Text.ofNat s.errors ++
    " errors, " ++ Text.ofNat s.warnings ++ " warnings) in " ++ Text.ofNat s.fileCount ++
    " files, dropped " ++ Text.ofNat s.dropped)

def scan (cwd workingDir : Text) (boundary : Path.Boundary) (policy : Policy)
    (text : Text) : Noted Scan :=
  let s := scanText cwd workingDir boundary policy text
  { value := s
    notes :=
      if text = [] then []
      else (outputLines text).flatMap (lineNotes cwd workingDir) ++ [s.note] }

end SketchBuild.Diagnostic
