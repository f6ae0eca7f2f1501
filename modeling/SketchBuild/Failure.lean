import SketchBuild.Text.Basic

namespace SketchBuild

def releaseVersion : Text := "1.0.0"

namespace ExitCode

def success : Nat := 0

def invalidArguments : Nat := 1

def runtimeError : Nat := 2

def diagnosticsFound : Nat := 3

def interrupted : Nat := 130

end ExitCode

inductive Failure where
  | general
  | validation
  | buildDirectory
  | storage
  | databaseWrite
  deriving DecidableEq

namespace Failure

def wider? : Failure → Option Failure
  | .general => none
  | .validation => some .general
  | .buildDirectory => some .validation
  | .storage => some .general
  | .databaseWrite => some .storage

def exitCode : Failure → Nat
  | .validation | .buildDirectory => ExitCode.invalidArguments
  | .general | .storage | .databaseWrite => ExitCode.runtimeError

def kindsWithin : Nat → Failure → List Failure
  | 0, f => [f]
  | n + 1, f => f :: match f.wider? with
    | some g => kindsWithin n g
    | none => []

def kinds (f : Failure) : List Failure := kindsWithin 2 f

end Failure

end SketchBuild
