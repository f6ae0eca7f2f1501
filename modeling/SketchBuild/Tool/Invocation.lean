import SketchBuild.Disk.Basic
import SketchBuild.Failure
import SketchBuild.Options
import SketchBuild.Packages

namespace SketchBuild.Tool

inductive Input where
  | bytes (bytes : List UInt8)
  | interrupted
  deriving DecidableEq

structure Invocation where
  disk : Disk
  arguments : List Text
  input : Input := .bytes []
  toTerminal : Bool := false
  noColor : Option Text := none
  installed : Packages.Versions := [("colorama", "0.4.6"), ("packaging", "24.2")]

structure Outcome where
  disk : Disk
  exitCode : Nat
  verbose : Bool := false

structure Manual where
  grammar : Options.Grammar
  usage : List Text
  details : List Text

def linesText (lines : List Text) : Text := lines.flatMap (· ++ ['\n'])

def Manual.helpText (m : Manual) : Text := linesText (m.usage ++ [] :: m.details)

def Manual.answer (m : Manual) (d : Disk) : Options.Stop → Noted Outcome
  | .help => do
    Noted.tell (.printed .out m.helpText)
    return { disk := d, exitCode := ExitCode.success }
  | .version => do
    Noted.printLine .out (m.grammar.program ++ " " ++ releaseVersion)
    return { disk := d, exitCode := ExitCode.success }
  | .fault message => do
    Noted.tell (.printed .err (linesText m.usage))
    Noted.printLine .err (m.grammar.program ++ ": error: " ++ message)
    return { disk := d, exitCode := ExitCode.runtimeError }

def fatal (d : Disk) (verbose : Bool) (message : Text) : Noted Outcome := do
  Noted.printLine .err ("Fatal error: " ++ message)
  return { disk := d, exitCode := ExitCode.runtimeError, verbose }

def noPathMessage : Text := "expected str, bytes or os.PathLike object, not list"

def refuse (p : Palette) (d : Disk) (verbose : Bool) (exitCode : Nat) (message : Text) :
    Noted Outcome := do
  p.print .error true message
  return { disk := d, exitCode, verbose }

/-- Chooses the colors of a run and goes on with them; colors are only used where the package that
knows their codes is new enough. -/
def withPalette (i : Invocation) (refused verbose : Bool) (run : Palette → Noted Outcome) :
    Noted Outcome := do
  if Palette.isWanted true false refused i.noColor i.toTerminal then
    match ← Packages.require .terminal i.installed Packages.leastVersions "colorama"
        "colored output" with
    | .error problem => fatal i.disk verbose problem.message
    | .ok true => run .terminal
    | .ok false => return { disk := i.disk, exitCode := ExitCode.runtimeError, verbose }
  else run .plain

end SketchBuild.Tool
