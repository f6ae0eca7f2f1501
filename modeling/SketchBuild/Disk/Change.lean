import SketchBuild.Disk.Basic

namespace SketchBuild.Disk

def read (d : Disk) (path : Text) : Except Error (List UInt8) :=
  match d.place path with
  | .ok (.taken _ (.file bytes)) => .ok bytes
  | .ok (.taken _ (.dir _)) => .error { cause := .isDirectory, path }
  | .ok (.free _ _) => .error { cause := .missing, path }
  | .error cause => .error { cause, path }

def setMember (d : Disk) (dir : List Text) (name : Text) (node : Node) : Disk :=
  { d with root := d.root.modify (Table.put name node) dir }

def dropMember (d : Disk) (dir : List Text) (name : Text) : Disk :=
  { d with root := d.root.modify (Table.erase name) dir }

def setAt (d : Disk) (location : List Text) (node : Node) : Disk :=
  match location.getLast? with
  | none => d
  | some name => d.setMember location.dropLast name node

def dropAt (d : Disk) (location : List Text) : Disk :=
  match location.getLast? with
  | none => d
  | some name => d.dropMember location.dropLast name

/-- Writes a file, a new one or over an old one. A slash at the end asks for a directory, which is
not written. -/
def write (d : Disk) (path : Text) (bytes : List UInt8) : Except Error Disk :=
  if path = [] then .error { cause := .missing, path }
  else match walk d (origin d path) (steps path) with
    | .error cause => .error { cause, path }
    | .ok (.taken _ (.dir _)) => .error { cause := .isDirectory, path }
    | .ok (.taken location (.file _)) =>
      if asksDirectory path then .error { cause := .isDirectory, path }
      else .ok (d.setAt location (.file bytes))
    | .ok (.free dir name) =>
      if asksDirectory path then .error { cause := .isDirectory, path }
      else .ok (d.setMember dir name (.file bytes))

def remove (d : Disk) (path : Text) : Except Error Disk :=
  match d.place path with
  | .ok (.taken location (.file _)) => .ok (d.dropAt location)
  | .ok (.taken _ (.dir _)) => .error { cause := .isDirectory, path }
  | .ok (.free _ _) => .error { cause := .missing, path }
  | .error cause => .error { cause, path }

def removeAll (d : Disk) (path : Text) : Except Error Disk :=
  match d.place path with
  | .ok (.taken location _) => .ok (d.dropAt location)
  | .ok (.free _ _) => .error { cause := .missing, path }
  | .error cause => .error { cause, path }

/-- Whether a path names no member of a directory, but a directory by `.`, by `..` or as the
root. -/
def namesNoMember (path : Text) : Bool :=
  match (steps path).getLast? with
  | none => true
  | some part => part = ['.'] || part = ['.', '.']

def rename (d : Disk) (path target : Text) : Except Error Disk :=
  let fail (cause : Cause) : Except Error Disk := .error { cause, path, target := some target }
  match d.place path, d.place target with
  | .ok (.taken source (.file bytes)), .ok (.taken location (.file _)) =>
    .ok ((d.dropAt source).setAt location (.file bytes))
  | .ok (.taken source (.file bytes)), .ok (.free dir name) =>
    if asksDirectory target then fail .notDirectory
    else .ok ((d.dropAt source).setMember dir name (.file bytes))
  | .ok (.taken _ (.file _)), .ok (.taken _ (.dir _)) =>
    fail (if namesNoMember target then .busy
      else if asksDirectory target then .notDirectory
      else .isDirectory)
  | .ok (.taken _ (.dir _)), _ => fail .isDirectory
  | .ok (.free _ _), _ => fail .missing
  | .error cause, _ => fail cause
  | _, .error cause => fail cause

def makeDir (d : Disk) (path : Text) : Except Error Disk :=
  if path = [] then .error { cause := .missing, path }
  else match walk d (origin d path) (steps path) with
    | .ok (.free dir name) => .ok (d.setMember dir name (.dir []))
    | .ok (.taken _ _) => .error { cause := .exists, path }
    | .error cause => .error { cause, path }

def ensureDir (d : Disk) (path : Text) : Disk × Except Error Unit :=
  match d.makeDir path with
  | .ok d' => (d', .ok ())
  | .error e => (d, if d.isDir path then .ok () else .error e)

/-- A path split before its last component; slashes at its end are overlooked. -/
def lastSplit (path : Text) : Text × Text :=
  let path := if Path.baseName path = [] then Path.parent path else path
  (Path.parent path, Path.baseName path)

def makeDirsWithin : Nat → Disk → Text → Disk × Except Error Unit
  | 0, d, path => d.ensureDir path
  | n + 1, d, path =>
    let (head, tail) := lastSplit path
    if head = [] || tail = [] || d.exists? head then d.ensureDir path
    else
      let (d, above) := makeDirsWithin n d head
      match above with
      | .error e => if e.cause = .exists then d.ensureDir path else (d, .error e)
      | .ok () => if tail = ['.'] then (d, .ok ()) else d.ensureDir path

/-- Makes a directory and all missing ones above it. Those that were made stay if a later one
fails. -/
def makeDirs (d : Disk) (path : Text) : Disk × Except Error Unit := makeDirsWithin path.length d path

end SketchBuild.Disk
