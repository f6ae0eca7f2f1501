import SketchBuild.Disk.Change
import SketchBuild.Journal
import SketchBuild.Json.Reader
import SketchBuild.Json.Writer
import SketchBuild.Text.Utf8

namespace SketchBuild.Storage

def exists? (d : Disk) (path : Text) : Noted Bool := do
  Noted.tell (.looked path)
  return d.exists? path

def isFile (d : Disk) (path : Text) : Noted Bool := do
  Noted.tell (.looked path)
  return d.isFile path

def isDir (d : Disk) (path : Text) : Noted Bool := do
  Noted.tell (.looked path)
  return d.isDir path

/-- The text of bytes with any line ends; a replacement character stands for each broken piece. -/
def textOfBytes (bytes : List UInt8) : Text := Text.unifyNewlines (Text.Utf8.decodeLossy bytes)

def fileText? (d : Disk) (path : Text) : Option Text := (d.read path).toOption.map textOfBytes

def readText (d : Disk) (path : Text) : Noted (Option Text) := do
  Noted.tell (.looked path)
  match d.read path with
  | .ok bytes => return some (textOfBytes bytes)
  | .error e =>
    Noted.debug ("Failed to read " ++ path ++ ": " ++ e.message)
    return none

theorem value_readText (d : Disk) (path : Text) : (readText d path).value = fileText? d path := by
  simp only [readText, fileText?, Noted.value_bind]
  cases d.read path <;> rfl

inductive Document where
  | value (v : Json)
  | unusable (reason : Text)
  deriving DecidableEq

structure Oversized where
  digits : Nat
  deriving DecidableEq

def documentOfBytes (path : Text) (bytes : List UInt8) : Except Oversized Document :=
  match Text.Utf8.decode bytes with
  | .error e => .ok (.unusable (path ++ ": " ++ e.message))
  | .ok text =>
    let text := Text.unifyNewlines text
    match Json.read text with
    | .ok v => .ok (.value v)
    | .error (.fault kind left) => .ok (.unusable (path ++ ": " ++ kind.messageAt left text))
    | .error (.oversized digits) => .error { digits }

def document (d : Disk) (path : Text) : Except Oversized Document :=
  if d.exists? path then
    match d.read path with
    | .ok bytes => documentOfBytes path bytes
    | .error e => .ok (.unusable (path ++ ": " ++ e.message))
  else .ok (.unusable (path ++ " does not exist"))

def complaint (path : Text) (bytes : List UInt8) : List Note :=
  match Text.Utf8.decode bytes with
  | .error e => [.logged .warning ("Failed to read " ++ path ++ ": " ++ e.message)]
  | .ok text =>
    let text := Text.unifyNewlines text
    match Json.read text with
    | .error (.fault kind left) =>
      [.logged .warning ("Failed to parse " ++ path ++ ": " ++ kind.messageAt left text)]
    | _ => []

def documentNotes (d : Disk) (path : Text) : List Note :=
  if d.exists? path then
    match d.read path with
    | .ok bytes => complaint path bytes
    | .error e => [.logged .warning ("Failed to read " ++ path ++ ": " ++ e.message)]
  else [.logged .debug ("JSON file does not exist: " ++ path)]

def readJson (d : Disk) (path : Text) : Noted (Except Oversized Document) :=
  { value := document d path, notes := .looked path :: documentNotes d path }

abbrev Reading := ExceptT Oversized Noted

def load (d : Disk) (path : Text) : Reading Document := .mk (readJson d path)

def documentBytes (v : Json) : List UInt8 := Text.Utf8.encode (v.pretty ++ ['\n'])

def temporary (path : Text) : Text := path ++ ".tmp"

def writeAside (d : Disk) (path : Text) (bytes : List UInt8) : Disk × Except Disk.Error Unit :=
  match d.write (temporary path) bytes with
  | .error e => (d, .error e)
  | .ok d' =>
    match d'.rename (temporary path) path with
    | .error e => (d', .error e)
    | .ok d' => (d', .ok ())

def cleanUp (d : Disk) (path : Text) : Noted Disk :=
  if d.exists? (temporary path) then
    match d.remove (temporary path) with
    | .ok d' => pure d'
    | .error e => do
      Noted.debug ("Failed to remove temp file " ++ temporary path ++ ": " ++ e.message)
      return d
  else pure d

/-- Writes a document in place of the file at a path, making the directories above it. The file
holds its old bytes until the new ones are complete. -/
def writeJson (d : Disk) (path : Text) (v : Json) : Noted (Disk × Except Disk.Error Unit) := do
  Noted.tell (.looked path)
  Noted.tell (.looked (temporary path))
  let dir := Path.parent path
  let (d, made) := if dir = [] then (d, .ok ()) else d.makeDirs dir
  match made with
  | .error e => return (d, .error e)
  | .ok () =>
    match writeAside d path (documentBytes v) with
    | (d, .ok ()) =>
      Noted.debug ("Wrote " ++ path)
      return (d, .ok ())
    | (d, .error e) =>
      let d ← cleanUp d path
      return (d, .error e)

end SketchBuild.Storage
