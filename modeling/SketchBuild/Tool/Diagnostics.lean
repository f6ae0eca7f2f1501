import SketchBuild.Diagnostic.Report
import SketchBuild.Storage
import SketchBuild.Tool.Invocation

namespace SketchBuild.Tool.Diagnostics

def manual : Manual where
  grammar := {
    program := "sketchCheckDiagnostics.py"
    argument := some "input"
    options := [
      { names := ["-h", "--help"], kind := .help },
      { names := ["--cwd"], kind := .value [] },
      { names := ["--project-root"], kind := .value [] },
      { names := ["--allow-outside"] },
      { names := ["--show-outside-warnings"] },
      { names := ["--format"], kind := .value ["text", "json"] },
      { names := ["--output", "-o"], kind := .value [] },
      { names := ["--fail-on-error"] },
      { names := ["--no-color"] },
      { names := ["--verbose", "-v"] },
      { names := ["--version"], kind := .version }]
  }
  usage := [
    "usage: sketchCheckDiagnostics.py [-h] [--cwd CWD] [--project-root DIR]",
    "                                 [--allow-outside] [--show-outside-warnings]",
    "                                 [--format \x7btext,json\x7d] [--output FILE]",
    "                                 [--fail-on-error] [--no-color] [--verbose]",
    "                                 [--version]",
    "                                 input"]
  details := [
    "Extract compiler diagnostics from a captured build error stream.",
    "",
    "positional arguments:",
    "  input                 File containing the compiler error stream, or '-' for",
    "                        stdin",
    "",
    "options:",
    "  -h, --help            show this help message and exit",
    "  --cwd CWD             Working directory of the build (default: current",
    "                        directory)",
    "  --project-root DIR    Project root directory (repeatable, default: --cwd)",
    "  --allow-outside       Also report diagnostics for files outside the project",
    "  --show-outside-warnings",
    "                        With --allow-outside, keep warnings for files outside",
    "                        the project",
    "  --format \x7btext,json\x7d  Output format (default: text)",
    "  --output FILE, -o FILE",
    "                        Save JSON output to file and print summary to stdout",
    "  --fail-on-error       Exit with 3 when any error was found",
    "  --no-color            Disable colored output",
    "  --verbose, -v         Enable verbose output to stderr",
    "  --version             show program's version number and exit",
    "",
    "Version 1.0.0",
    "",
    "Examples:",
    "  sketchCheckDiagnostics.py build.log --cwd ~/Arduino/Blink --project-root ~/Arduino/Blink",
    "  arduino-cli compile 2>&1 | sketchCheckDiagnostics.py - --project-root . --format json"]

inductive Source where
  | text (s : Text)
  | unreadable
  | undecodable (e : Text.Utf8.DecodeError)
  | interrupted

def readSource (i : Invocation) (path : Text) : Noted Source := do
  if path = ['-'] then
    match i.input with
    | .interrupted => return .interrupted
    | .bytes bytes =>
      match Text.Utf8.decode bytes with
      | .ok s => return .text (Text.unifyNewlines s)
      | .error e => return .undecodable e
  else
    match ← Storage.readText i.disk path with
    | some s => return .text s
    | none => return .unreadable

def save (p : Palette) (d : Disk) (verbose : Bool) (path : Text) (s : Diagnostic.Scan)
    (run : Disk → Noted Outcome) : Noted Outcome := do
  Noted.tell (.looked path)
  match d.write path (Text.Utf8.encode s.jsonText) with
  | .ok d =>
    Noted.debug ("JSON output saved to: " ++ path)
    run d
  | .error e =>
    refuse p d verbose ExitCode.invalidArguments ("Cannot write to file '" ++ path ++ "': " ++ e.message)

def finish (p : Palette) (g : Options.Given) (saved : Bool) (s : Diagnostic.Scan) (d : Disk) :
    Noted Outcome := do
  if g.value? "--format" = some "json" && !saved then Noted.printLine .out s.jsonText
  else if s.count = 0 then p.print .success false "No diagnostics reported."
  else Noted.printLine .out (s.text p)
  let failed := g.has "--fail-on-error" && s.errors ≠ 0
  return {
    disk := d
    exitCode := if failed then ExitCode.diagnosticsFound else ExitCode.success
    verbose := g.has "--verbose"
  }

def report (i : Invocation) (p : Palette) (g : Options.Given) (workingDir text : Text) :
    Noted Outcome := do
  let roots := g.all "--project-root"
  let boundary :=
    Path.Boundary.of i.disk.cwd (if roots = [] then [workingDir] else roots.filterMap id)
  let policy := Diagnostic.Policy.ofOptions (g.has "--allow-outside") (g.has "--show-outside-warnings")
  Noted.debug ("Project roots: " ++ [',', ' '].intercalate boundary.roots)
  let s ← Diagnostic.scan i.disk.cwd workingDir boundary policy text
  match (g.value? "--output").filter (· ≠ []) with
  | some path => save p i.disk (g.has "--verbose") path s (finish p g true s)
  | none => finish p g false s i.disk

def runWith (i : Invocation) (g : Options.Given) (p : Palette) : Noted Outcome := do
  let verbose := g.has "--verbose"
  let workingDir := Path.absolute i.disk.cwd ((g.value? "--cwd").getD i.disk.cwd)
  let source := g.argument.getD []
  if g.lacksValue "--cwd" then fatal i.disk verbose noPathMessage
  else if ← Storage.isDir i.disk workingDir then
    match ← readSource i source with
    | .text s => report i p g workingDir s
    | .unreadable =>
      refuse p i.disk verbose ExitCode.invalidArguments ("Cannot read compiler output: " ++ source)
    | .undecodable e => fatal i.disk verbose e.message
    | .interrupted =>
      p.print .warning false "\nInterrupted by user. Exiting..."
      return { disk := i.disk, exitCode := ExitCode.interrupted, verbose }
  else
    refuse p i.disk verbose ExitCode.invalidArguments ("Working directory does not exist: " ++ workingDir)

def run (i : Invocation) : Noted Outcome :=
  match manual.grammar.parse i.arguments with
  | .error stop => manual.answer i.disk stop
  | .ok g => withPalette i (g.has "--no-color") (g.has "--verbose") (runWith i g)

end SketchBuild.Tool.Diagnostics
