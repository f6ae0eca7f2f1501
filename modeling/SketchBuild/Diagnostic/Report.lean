import SketchBuild.Diagnostic.Scan
import SketchBuild.Failure
import SketchBuild.Json.Writer
import SketchBuild.Palette

namespace SketchBuild.Diagnostic

def Scan.problems (s : Scan) : Json :=
  .obj (s.byFile.map fun (path, rs) => (path, .arr (rs.map toJson)))

def Scan.document (s : Scan) : Json :=
  .obj [
    ("summary", .obj [
      ("files", .int s.fileCount),
      ("errors", .int s.errors),
      ("warnings", .int s.warnings),
      ("dropped", .int s.dropped),
      ("version", .str releaseVersion)]),
    ("diagnostics", s.problems)]

def Scan.jsonText (s : Scan) : Text := s.document.pretty

def rendered (p : Palette) (path : Text) (r : Diagnostic) : Text :=
  p.diagnostic path r.line r.column r.severity.name r.message

def Scan.summary (p : Palette) (s : Scan) : Text :=
  Text.ofNat s.errors ++ " error(s), " ++ Text.ofNat s.warnings ++ " warning(s) in " ++
    Text.ofNat s.fileCount ++ " file(s)" ++
    if s.dropped = 0 then []
    else p.colored (" (" ++ Text.ofNat s.dropped ++ " outside the project hidden)") p.dim []

def Scan.text (p : Palette) (s : Scan) : Text :=
  ['\n'].intercalate
    ((s.byFile.flatMap fun (path, rs) => rs.map (rendered p path)) ++ [s.summary p])

end SketchBuild.Diagnostic
