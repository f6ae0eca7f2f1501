import SketchBuild.Path.Basic

namespace SketchBuild

structure Settings where
  header : Text
  databasePath : Text
  propertiesPath : Text
  updatesProperties : Bool := false
  deriving DecidableEq

namespace Settings

inductive Fault where
  | emptyHeader
  | databaseRelative
  | propertiesRelative
  deriving DecidableEq

def Fault.message : Fault → Text
  | .emptyHeader => "implicit_header must not be empty"
  | .databaseRelative => "database_path must be absolute"
  | .propertiesRelative => "cpp_properties_path must be absolute"

def check (s : Settings) : Except Fault Settings :=
  if s.header = [] then .error .emptyHeader
  else if s.databasePath.head? ≠ some '/' then .error .databaseRelative
  else if s.propertiesPath.head? ≠ some '/' then .error .propertiesRelative
  else .ok s

def editorDir : Text := ".vscode"

def databaseName : Text := "compile_commands.json"

def propertiesName : Text := "c_cpp_properties.json"

/-- The settings of the project in a directory. An empty database path stands for the usual one. -/
def ofProject (cwd root header databasePath : Text) (updatesProperties : Bool) :
    Except Fault Settings :=
  let root := Path.absolute cwd root
  let inEditorDir (name : Text) : Text := Path.join (Path.join root editorDir) name
  check {
    header
    databasePath :=
      if databasePath = [] then inEditorDir databaseName else Path.absolute cwd databasePath
    propertiesPath := inEditorDir propertiesName
    updatesProperties
  }

end Settings

end SketchBuild
