import SketchBuild.Journal
import SketchBuild.Text.Lowercase

namespace SketchBuild

structure Palette where
  red : Text := []
  green : Text := []
  yellow : Text := []
  cyan : Text := []
  white : Text := []
  reset : Text := []
  bright : Text := []
  dim : Text := []
  normal : Text := []
  deriving DecidableEq

namespace Palette

def plain : Palette := {}

def code (n : Nat) : Text := '\x1b' :: '[' :: Text.ofNat n ++ ['m']

def terminal : Palette where
  red := code 31
  green := code 32
  yellow := code 33
  cyan := code 36
  white := code 37
  reset := code 0
  bright := code 1
  dim := code 2
  normal := code 22

def named (p : Palette) : List (Text × Text) :=
  [("RED", p.red), ("GREEN", p.green), ("YELLOW", p.yellow), ("CYAN", p.cyan), ("WHITE", p.white),
    ("RESET", p.reset), ("BRIGHT", p.bright), ("DIM", p.dim), ("NORMAL", p.normal)]

def colored (p : Palette) (text color style : Text) : Text :=
  if color = [] && style = [] then text else style ++ color ++ text ++ p.reset

inductive Kind where
  | success
  | error
  | warning
  | info
  deriving DecidableEq

def Kind.label : Kind → Text
  | .success => "Success"
  | .error => "Error"
  | .warning => "Warning"
  | .info => []

def Kind.isLabelled : Kind → Bool
  | .error | .warning => true
  | .success | .info => false

def Kind.stream : Kind → Stream
  | .error | .warning => .err
  | .success | .info => .out

def color (p : Palette) : Kind → Text
  | .success => p.green
  | .error => p.red
  | .warning => p.yellow
  | .info => p.cyan

def line (p : Palette) (kind : Kind) (labelled : Bool) (text : Text) : Text :=
  let text := if labelled && kind.label ≠ [] then kind.label ++ ": " ++ text else text
  p.colored text (p.color kind) []

def print (p : Palette) (kind : Kind) (labelled : Bool) (text : Text) : Noted Unit :=
  Noted.printLine kind.stream (p.line kind labelled text)

def ofSeverity (p : Palette) (severity : Text) : Text × Text :=
  let severity := Text.lower severity
  if severity = ("error" : Text) then (p.red, p.bright)
  else if severity = ("warning" : Text) then (p.yellow, p.normal)
  else (p.white, p.normal)

def diagnostic (p : Palette) (path : Text) (line column : Int) (severity message : Text) : Text :=
  let (color, style) := p.ofSeverity severity
  let place := path ++ ':' :: Text.ofInt line ++ ':' :: Text.ofInt column ++ [':']
  p.colored place p.white p.bright ++ ' ' ::
    p.colored (Text.lower severity ++ [':']) color style ++ ' ' :: message

/-- Whether output is colored: a refusal by option or environment wins, then codes have to be
known, then an order or a terminal decides. -/
def isWanted (known force refused : Bool) (noColor : Option Text) (terminal : Bool) : Bool :=
  !refused && (noColor.getD []).isEmpty && known && (force || terminal)

end Palette

end SketchBuild
