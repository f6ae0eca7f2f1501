import SketchBuild.Decimal.Numeral

/-!
The shortest decimal that reads back as a given floating point number. For each number of digits
the two neighbours on that decimal grid are tried, the nearer one first.
-/

namespace SketchBuild.Binary64

def zeros (n : Nat) : Text := List.replicate n '0'

/-- Digits with the decimal point after the first `point` of them: in full for sixteen places
before the point and four zeros behind it, else with an exponent of at least two digits. -/
def layout (digits : Text) (point : Int) : Text :=
  if -4 < point && point ≤ 16 then
    if point ≤ 0 then "0." ++ zeros (-point).toNat ++ digits
    else
      let n := point.toNat
      if digits.length ≤ n then digits ++ zeros (n - digits.length) ++ ".0"
      else digits.take n ++ '.' :: digits.drop n
  else
    let e := point - 1
    let size := Text.ofNat e.natAbs
    let fraction := if digits.length ≤ 1 then [] else '.' :: digits.drop 1
    digits.take 1 ++ fraction ++ 'e' :: (if e < 0 then '-' else '+') :: zeros (2 - size.length) ++ size

def overPower (mantissa : Nat) (exponent power : Int) : Nat × Nat :=
  (mantissa * Nat.pow 2 exponent.toNat * Nat.pow 10 (-power).toNat,
    Nat.pow 2 (-exponent).toNat * Nat.pow 10 power.toNat)

def pointOf (mantissa : Nat) (exponent : Int) : Int :=
  let low := ((Nat.log2 mantissa : Int) + exponent) * 30103 / 100000
  let below (k : Int) : Bool :=
    let (n, d) := overPower mantissa exponent k
    n < d
  if below low then low else if below (low + 1) then low + 1 else low + 2

/-- The neighbours of a ratio among the whole numbers, the nearer one first; halfway between them
the even one comes first. -/
def neighbours (num den : Nat) : List Nat :=
  let q := num / den
  if Binary64.roundDiv num den = q then [q, q + 1] else [q + 1, q]

def candidates (mantissa : Nat) (exponent : Int) (size : Nat) : List Text :=
  let point := pointOf mantissa exponent
  let (num, den) := overPower mantissa exponent (point - size)
  (neighbours num den).map fun n =>
    let digits := Text.ofNat n
    layout (Text.stripEnd '0' digits) (point - size + digits.length)

def exactText (mantissa : Nat) (exponent : Int) : Text :=
  if 0 ≤ exponent then Text.ofNat (mantissa * Nat.pow 2 exponent.toNat) ++ "e0"
  else Text.ofNat (mantissa * Nat.pow 5 (-exponent).toNat) ++ 'e' :: Text.ofInt exponent

def magnitudeText (mantissa : Nat) (exponent : Int)
    (canonical : Canonical mantissa exponent) : Text :=
  if mantissa = 0 then "0.0"
  else
    let texts := (List.range 17).flatMap fun i => candidates mantissa exponent (i + 1)
    (texts.find? fun t => ofText? t = some (.finite false mantissa exponent canonical)).getD
      (exactText mantissa exponent)

def text (notANumber infinity : Text) : Binary64 → Text
  | .nan => notANumber
  | .infinite negative => (if negative then ['-'] else []) ++ infinity
  | .finite negative mantissa exponent canonical =>
    (if negative then ['-'] else []) ++ magnitudeText mantissa exponent canonical

end SketchBuild.Binary64
