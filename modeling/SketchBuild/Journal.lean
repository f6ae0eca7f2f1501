import SketchBuild.Text.Basic

namespace SketchBuild

inductive Level where
  | debug
  | info
  | warning
  deriving DecidableEq

inductive Stream where
  | out
  | err
  deriving DecidableEq

inductive Note where
  | looked (path : Text)
  | walked (path : Text)
  | logged (level : Level) (message : Text)
  | printed (stream : Stream) (text : Text)
  deriving DecidableEq

/-- A value and what was told on the way to it, in order. -/
structure Noted (α : Type) where
  value : α
  notes : List Note := []

namespace Noted

variable {α β : Type}

instance : Monad Noted where
  pure a := { value := a }
  bind x f :=
    let y := f x.value
    { value := y.value, notes := x.notes ++ y.notes }

@[simp] theorem value_pure (a : α) : (pure a : Noted α).value = a := rfl

@[simp] theorem value_bind (x : Noted α) (f : α → Noted β) : (x >>= f).value = (f x.value).value := rfl

@[simp] theorem value_map (f : α → β) (x : Noted α) : (f <$> x).value = f x.value := rfl

def tell (note : Note) : Noted Unit := { value := (), notes := [note] }

def tellAll (notes : List Note) : Noted Unit := { value := (), notes }

def debug (message : Text) : Noted Unit := tell (.logged .debug message)

def info (message : Text) : Noted Unit := tell (.logged .info message)

def warning (message : Text) : Noted Unit := tell (.logged .warning message)

def printLine (stream : Stream) (line : Text) : Noted Unit := tell (.printed stream (line ++ ['\n']))

def flatMap (f : α → Noted (List β)) : List α → Noted (List β)
  | [] => pure []
  | a :: as => do
    let bs ← f a
    let rest ← flatMap f as
    return bs ++ rest

theorem value_flatMap (f : α → Noted (List β)) (as : List α) :
    (flatMap f as).value = as.flatMap fun a => (f a).value := by
  induction as with
  | nil => rfl
  | cons a as ih => simp [flatMap, ih]

end Noted

def printedTo (stream : Stream) (notes : List Note) : Text :=
  notes.flatMap fun
    | .printed s text => if s = stream then text else []
    | _ => []

def Level.line? (verbose : Bool) (message : Text) : Level → Option Text
  | .debug => if verbose then some ("DEBUG: " ++ message ++ ['\n']) else none
  | .info => some ("INFO: " ++ message ++ ['\n'])
  | .warning => some ("WARNING: " ++ message ++ ['\n'])

def errorStream (verbose : Bool) (notes : List Note) : Text :=
  notes.flatMap fun
    | .printed .err text => text
    | .logged level message => (level.line? verbose message).getD []
    | _ => []

end SketchBuild
