import SketchBuild.Decimal.Binary64
import SketchBuild.Text.Basic

namespace SketchBuild

structure Numeral where
  negative : Bool
  whole : Text
  fraction : Option Text := none
  exponent : Option Text := none
  deriving DecidableEq

namespace Numeral

def spanDigits (s : Text) : Text × Text := (s.takeWhile Char.isDigit, s.dropWhile Char.isDigit)

/-- The whole part at the start of a text: a zero alone, or digits that start with another one. -/
def whole? : Text → Option (Text × Text)
  | '0' :: s => some (['0'], s)
  | c :: s => if c.isDigit then some (c :: (spanDigits s).1, (spanDigits s).2) else none
  | [] => none

def fraction? : Text → Option Text × Text
  | '.' :: s =>
    match spanDigits s with
    | ([], _) => (none, '.' :: s)
    | (digits, rest) => (some digits, rest)
  | s => (none, s)

def sign? : Text → Text × Text
  | '-' :: s => (['-'], s)
  | '+' :: s => (['+'], s)
  | s => ([], s)

def exponent? : Text → Option Text × Text
  | [] => (none, [])
  | c :: s =>
    if c = 'e' || c = 'E' then
      match spanDigits (sign? s).2 with
      | ([], _) => (none, c :: s)
      | (digits, rest) => (some ((sign? s).1 ++ digits), rest)
    else (none, c :: s)

def scan (s : Text) : Option (Numeral × Text) := do
  let (negative, s) := match s with
    | '-' :: s => (true, s)
    | s => (false, s)
  let (whole, s) ← whole? s
  let (fraction, s) := fraction? s
  let (exponent, s) := exponent? s
  return ({ negative, whole, fraction, exponent }, s)

def digitsValue (digits : Text) : Nat := digits.foldl (fun n c => 10 * n + (c.toNat - '0'.toNat)) 0

def signedValue : Text → Int
  | '-' :: digits => -(digitsValue digits : Int)
  | '+' :: digits => digitsValue digits
  | digits => digitsValue digits

def isFloat (n : Numeral) : Bool := n.fraction.isSome || n.exponent.isSome

def toInt (n : Numeral) : Int :=
  if n.negative then -(digitsValue n.whole : Int) else digitsValue n.whole

def toBinary64 (n : Numeral) : Binary64 :=
  let fraction := n.fraction.getD []
  Binary64.ofDecimal n.negative (digitsValue (n.whole ++ fraction))
    (signedValue (n.exponent.getD []) - fraction.length)

end Numeral

def Binary64.ofText? (s : Text) : Option Binary64 :=
  match Numeral.scan s with
  | some (n, []) => if n.isFloat then some n.toBinary64 else none
  | _ => none

end SketchBuild
