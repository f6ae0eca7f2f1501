import SketchBuild.Tool.Invocation

namespace SketchBuild.Tool.Verify

def manual : Manual where
  grammar := {
    program := "package_verification.py"
    options := [
      { names := ["-h", "--help"], kind := .help },
      { names := ["--check-all"] }]
  }
  usage := [
    "usage: package_verification.py [-h] [--check-all]"]
  details := [
    "Verify sketch-check package dependencies",
    "",
    "options:",
    "  -h, --help   show this help message and exit",
    "  --check-all  Check all known runtime packages"]

def run (i : Invocation) : Noted (Except Packages.Problem Outcome) :=
  match manual.grammar.parse i.arguments with
  | .error stop => .ok <$> manual.answer i.disk stop
  | .ok g =>
    if g.has "--check-all" then do
      let usable ← (Packages.checkAll .terminal i.installed Packages.leastVersions).run
      return usable.map fun usable => {
        disk := i.disk
        exitCode := if usable then ExitCode.success else ExitCode.invalidArguments
      }
    else .ok <$> manual.answer i.disk .help

end SketchBuild.Tool.Verify
