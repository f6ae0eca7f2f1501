import SketchBuild.Database.Report
import SketchBuild.Properties
import SketchBuild.Settings
import SketchBuild.Tool.Invocation

namespace SketchBuild.Tool.Synchronize

def manual : Manual where
  grammar := {
    program := "sketchCheckCompileDb.py"
    argument := some "build_directory"
    options := [
      { names := ["-h", "--help"], kind := .help },
      { names := ["--project-root"], kind := .value [], isRequired := true },
      { names := ["--sketch-dir"], kind := .value [] },
      { names := ["--database"], kind := .value [] },
      { names := ["--cpp-properties"] },
      { names := ["--format"], kind := .value ["text", "json"] },
      { names := ["--no-color"] },
      { names := ["--verbose", "-v"] },
      { names := ["--version"], kind := .version }]
  }
  usage := [
    "usage: sketchCheckCompileDb.py [-h] --project-root DIR [--sketch-dir DIR]",
    "                               [--database FILE] [--cpp-properties]",
    "                               [--format \x7btext,json\x7d] [--no-color] [--verbose]",
    "                               [--version]",
    "                               build_directory"]
  details := [
    "Merge a finished build's compilation data into the project's compilation database.",
    "",
    "positional arguments:",
    "  build_directory       Build directory containing compile_commands.json or",
    "                        includes.cache",
    "",
    "options:",
    "  -h, --help            show this help message and exit",
    "  --project-root DIR    Root directory of the sketch project",
    "  --sketch-dir DIR      Sketch directory used to resolve cached entries",
    "                        (default: project root)",
    "  --database FILE       Consolidated database path (default:",
    "                        <project>/.vscode/compile_commands.json)",
    "  --cpp-properties      Also refresh include paths in",
    "                        .vscode/c_cpp_properties.json",
    "  --format \x7btext,json\x7d  Output format (default: text)",
    "  --no-color            Disable colored output",
    "  --verbose, -v         Enable verbose output to stderr",
    "  --version             show program's version number and exit",
    "",
    "Version 1.0.0",
    "",
    "Examples:",
    "  sketchCheckCompileDb.py /tmp/arduino/sketches/ABC123 --project-root ~/Arduino/Blink",
    "  sketchCheckCompileDb.py build/ --project-root . --cpp-properties --format json"]

def buildDir (d : Disk) (path : Text) : Except Text Text :=
  let dir := Path.absolute d.cwd path
  if d.isDir dir then .ok dir else .error ("Build directory does not exist: " ++ dir)

def finish (p : Palette) (g : Options.Given) (r : Database.MergeResult) (propertiesUpdated : Bool)
    (d : Disk) : Noted Outcome := do
  if g.value? "--format" = some "json" then Noted.printLine .out (r.jsonText propertiesUpdated)
  else r.printSummary p propertiesUpdated
  return { disk := d, exitCode := ExitCode.success, verbose := g.has "--verbose" }

def refresh (p : Palette) (g : Options.Given) (s : Settings) (r : Database.MergeResult)
    (d : Disk) : Noted Outcome := do
  if s.updatesProperties && r.hasArtifact then
    let update : Properties.Update := {
      includePaths := (Properties.includePaths d.cwd r.entries).map some
      compilerPath := Properties.compilerPath? r.entries
      compileCommands := some s.databasePath
    }
    match ← Properties.update d s.propertiesPath update with
    | (d, .ok updated) => finish p g r updated d
    | (d, .error (.oversized digits)) => fatal d (g.has "--verbose") (Text.oversizedMessage digits)
    | (d, .error (.unwritable reason)) =>
      refuse p d (g.has "--verbose") ExitCode.runtimeError
        ("Cannot write " ++ s.propertiesPath ++ ": " ++ reason.message)
  else finish p g r false d

def synchronize (i : Invocation) (g : Options.Given) (p : Palette) (build root : Text)
    (s : Settings) : Noted Outcome := do
  let d := i.disk
  let boundary := Path.Boundary.of d.cwd [root]
  let index ← ProjectIndex.build d boundary [build]
  let sketchDir := ((g.value? "--sketch-dir").filter (· ≠ [])).map (Path.absolute d.cwd)
  let task : Database.MergeTask := {
    buildDir := build
    boundary
    databasePath := s.databasePath
    sketchDir := sketchDir.getD root
    index := some index
    header := s.header
  }
  match ← Database.merge d task with
  | (d, .ok r) => refresh p g s r d
  | (d, .error (.oversized digits)) => fatal d (g.has "--verbose") (Text.oversizedMessage digits)
  | (d, .error (.unwritable reason _)) =>
    refuse p d (g.has "--verbose") Failure.databaseWrite.exitCode
      (Database.writeMessage s.databasePath reason)

def runWith (i : Invocation) (g : Options.Given) (p : Palette) : Noted Outcome := do
  let d := i.disk
  let verbose := g.has "--verbose"
  let path := g.argument.getD []
  Noted.tell (.looked (Path.absolute d.cwd path))
  match buildDir d path with
  | .error message => refuse p d verbose Failure.buildDirectory.exitCode message
  | .ok build =>
    let root := Path.absolute d.cwd ((g.value? "--project-root").getD [])
    if g.lacksValue "--project-root" then fatal d verbose noPathMessage
    else if ← Storage.isDir d root then
      let database := (g.value? "--database").getD []
      match Settings.ofProject d.cwd root Flags.defaultHeader database (g.has "--cpp-properties") with
      | .ok s => synchronize i g p build root s
      | .error fault => fatal d verbose fault.message
    else refuse p d verbose ExitCode.invalidArguments ("Project root does not exist: " ++ root)

def run (i : Invocation) : Noted Outcome :=
  match manual.grammar.parse i.arguments with
  | .error stop => manual.answer i.disk stop
  | .ok g => withPalette i (g.has "--no-color") (g.has "--verbose") (runWith i g)

end SketchBuild.Tool.Synchronize
