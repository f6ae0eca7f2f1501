import SketchBuild.BuildCache

namespace SketchBuild

inductive Artifact where
  | primary (path : Text) (entries : List Entry) (skipped : Nat)
  | cache (path : Text) (entries : List Entry) (primaryError : Text)
  | absent (reason : Text)
  deriving DecidableEq

namespace Database

def databaseFile : Text := "compile_commands.json"

def entriesFrom (path : Text) (index : Nat) : List Json → Noted (List Entry × Nat)
  | [] => pure ([], 0)
  | element :: rest =>
    match Entry.ofJson element with
    | .ok entry => do
      let (entries, skipped) ← entriesFrom path (index + 1) rest
      return (entry :: entries, skipped)
    | .error fault => do
      Noted.debug ("Skipping entry " ++ Text.ofNat index ++ " in " ++ path ++ ": " ++ fault.message)
      let (entries, skipped) ← entriesFrom path (index + 1) rest
      return (entries, skipped + 1)

def parseEntries (path : Text) (elements : List Json) : Noted (List Entry × Nat) := do
  let (entries, skipped) ← entriesFrom path 0 elements
  if skipped ≠ 0 then
    Noted.warning ("Skipped " ++ Text.ofNat skipped ++ " malformed entries in " ++ path)
  return (entries, skipped)

def readCache (d : Disk) (buildDir sketchDir primaryError : Text) : Storage.Reading Artifact := do
  match ← BuildCache.entries d buildDir sketchDir with
  | [] => return .absent (primaryError ++ "; no entries in " ++ BuildCache.cacheFile)
  | entries =>
    Noted.info ("Using " ++ Text.ofNat entries.length ++ " entries reconstructed from " ++
      BuildCache.cacheFile)
    return .cache (Path.join buildDir BuildCache.cacheFile) entries primaryError

def readArtifact (d : Disk) (buildDir sketchDir : Text) : Storage.Reading Artifact := do
  let path := Path.join buildDir databaseFile
  match ← Storage.load d path with
  | .value (.arr elements) =>
    let (entries, skipped) ← parseEntries path elements
    return .primary path entries skipped
  | .value .null => readCache d buildDir sketchDir (path ++ " is unusable")
  | .value v =>
    let reason : Text := path ++ ": expected a JSON array, got " ++ v.kindName
    Noted.warning reason
    readCache d buildDir sketchDir reason
  | .unusable reason => readCache d buildDir sketchDir reason

def load (d : Disk) (path : Text) : Storage.Reading (List Entry × Option Text) := do
  match ← Storage.load d path with
  | .value (.arr elements) =>
    let (entries, _) ← parseEntries path elements
    return (entries, none)
  | .value .null => return ([], none)
  | .value _ => return ([], some (path ++ ": expected a JSON array"))
  | .unusable reason => return ([], some reason)

end Database

end SketchBuild
