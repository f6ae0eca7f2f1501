import SketchBuild.Database.Artifact
import SketchBuild.Flags.Normal
import SketchBuild.ProjectIndex

/-!
Merging the compilation data of a build into the database of a project. Fresh entries replace the
old ones for the same file and keep their place; other old entries stay while their files do.
-/

namespace SketchBuild.Database

inductive Source where
  | primary
  | cache
  | absent
  deriving DecidableEq

def Source.name : Source → Text
  | .primary => "primary"
  | .cache => "cache"
  | .absent => "none"

def noArtifact : Int := -1

structure MergeResult where
  count : Int
  source : Source
  databasePath : Text
  entries : List Entry := []
  warnings : List Text := []
  discarded : Nat := 0
  keptExisting : Nat := 0
  droppedExisting : Nat := 0
  written : Bool := false
  deriving DecidableEq

def MergeResult.hasArtifact (r : MergeResult) : Bool := r.count ≠ noArtifact

structure MergeTask where
  buildDir : Text
  boundary : Path.Boundary
  databasePath : Text
  sketchDir : Text := []
  index : Option ProjectIndex := none
  header : Text := Flags.defaultHeader

/-- Why a merge has no result: a number with too many digits was read, or the database cannot be
written. The latter keeps the result that was to be written. -/
inductive MergeError where
  | oversized (digits : Nat)
  | unwritable (reason : Disk.Error) (result : MergeResult)

/-- The arguments with a target in place of the first source file that leads to a given path. -/
def replaceSource (cwd directory path target : Text) : List Text → List Text
  | [] => []
  | argument :: rest =>
    if argument.head? ≠ some '-' && Path.isSource argument &&
        Path.normalize (Path.resolve cwd directory argument) = Path.normalize path then
      target :: rest
    else argument :: replaceSource cwd directory path target rest

def projectFile? (cwd buildDir : Text) (boundary : Path.Boundary) (index : ProjectIndex)
    (e : Entry) : Noted (Option (Text × Text)) := do
  let path := e.path cwd
  let target ← index.retarget buildDir path
  if (buildDir ≠ [] && Path.isUnder target buildDir) || !boundary.contains target then return none
  return some (path, target)

def stored (cwd : Text) (e : Entry) (arguments : List Text) (path target : Text) : Entry :=
  { e.withArguments (replaceSource cwd e.directory path target arguments) with
    directory := Path.parent target
    file := Path.baseName target }

def collectFresh (d : Disk) (task : MergeTask) (index : ProjectIndex)
    (fresh : Table (Text × Text) Entry) (discarded : Nat) :
    List Entry → Noted (Table (Text × Text) Entry × Nat)
  | [] => pure (fresh, discarded)
  | e :: rest => do
    match ← projectFile? d.cwd task.buildDir task.boundary index e with
    | none =>
      Noted.debug ("Discarding non-project entry: " ++ e.path d.cwd)
      collectFresh d task index fresh (discarded + 1) rest
    | some (path, target) =>
      let normal ← Flags.normalizeEntry d task.header e
      let s := stored d.cwd e normal.arguments path target
      collectFresh d task index (Table.put s.key s fresh) discarded rest

structure Carried where
  entries : List Entry := []
  kept : Nat := 0
  dropped : Nat := 0
  deriving DecidableEq

/-- Carries one old entry over: the fresh one with its key, or itself while its file is there. -/
def carry (d : Disk) (task : MergeTask) (index : ProjectIndex)
    (fresh : Table (Text × Text) Entry) (c : Carried) (e : Entry) : Noted Carried := do
  match ← projectFile? d.cwd task.buildDir task.boundary index e with
  | none => return { c with dropped := c.dropped + 1 }
  | some (path, target) =>
    let s := stored d.cwd e e.arguments path target
    if s.key ∈ c.entries.map Entry.key then return c
    else match Table.find? s.key fresh with
      | some f => return { c with entries := c.entries ++ [f] }
      | none =>
        if ← Storage.isFile d target then
          return { c with entries := c.entries ++ [s], kept := c.kept + 1 }
        else
          Noted.debug ("Dropping entry for deleted file: " ++ target)
          return { c with dropped := c.dropped + 1 }

def carryAll (d : Disk) (task : MergeTask) (index : ProjectIndex)
    (fresh : Table (Text × Text) Entry) (c : Carried) : List Entry → Noted Carried
  | [] => pure c
  | e :: rest => do
    let c ← carry d task index fresh c e
    carryAll d task index fresh c rest

def appendFresh (fresh : Table (Text × Text) Entry) (entries : List Entry) : List Entry :=
  entries ++ (fresh.filter fun row => row.1 ∉ entries.map Entry.key).map Prod.snd

def mergeArtifact (d : Disk) (task : MergeTask) (source : Source) (fromBuild : List Entry)
    (warnings : List Text) : Storage.Reading MergeResult := do
  let index ← match task.index with
    | some index => pure index
    | none => ProjectIndex.build d task.boundary [task.buildDir]
  let (fresh, discarded) ← collectFresh d task index [] 0 fromBuild
  let (old, failure) ← load d task.databasePath
  let loadWarning ← match failure with
    | none => pure []
    | some reason =>
      if ← Storage.exists? d task.databasePath then
        Noted.warning ("Ignoring unreadable consolidated database: " ++ reason)
        pure [reason]
      else pure []
  let c ← carryAll d task index fresh {} old
  Noted.info ("Merged " ++ Text.ofNat fresh.length ++ " fresh entries (" ++ source.name ++
    "), kept " ++ Text.ofNat c.kept ++ " existing, dropped " ++ Text.ofNat c.dropped ++
    " existing, discarded " ++ Text.ofNat discarded)
  return {
    count := fresh.length
    source
    databasePath := task.databasePath
    entries := appendFresh fresh c.entries
    warnings := warnings ++ loadWarning
    discarded
    keptExisting := c.kept
    droppedExisting := c.dropped
  }

def planMerge (d : Disk) (task : MergeTask) : Storage.Reading MergeResult := do
  let sketchDir :=
    if task.sketchDir = [] then task.boundary.roots.head?.getD task.buildDir else task.sketchDir
  match ← readArtifact d task.buildDir sketchDir with
  | .absent reason =>
    Noted.info ("No compilation data available: " ++ reason)
    return {
      count := noArtifact
      source := .absent
      databasePath := task.databasePath
      warnings := [reason]
    }
  | .primary path entries skipped =>
    let warning : Text := path ++ ": skipped " ++ Text.ofNat skipped ++ " malformed entries"
    mergeArtifact d task .primary entries (if skipped = 0 then [] else [warning])
  | .cache _ entries primaryError => mergeArtifact d task .cache entries [primaryError]

def toJson (entries : List Entry) : Json := .arr (entries.map Entry.toJson)

def merge (d : Disk) (task : MergeTask) : Noted (Disk × Except MergeError MergeResult) := do
  let task := { task with buildDir := Path.absolute d.cwd task.buildDir }
  match ← (planMerge d task).run with
  | .error e => return (d, .error (.oversized e.digits))
  | .ok result =>
    if result.hasArtifact then
      match ← Storage.writeJson d task.databasePath (toJson result.entries) with
      | (d, .ok ()) => return (d, .ok { result with written := true })
      | (d, .error reason) => return (d, .error (.unwritable reason result))
    else return (d, .ok result)

def writeMessage (path : Text) (reason : Disk.Error) : Text :=
  "Cannot write compilation database " ++ path ++ ": " ++ reason.message

end SketchBuild.Database
