import SketchBuild.Decimal.Numeral
import SketchBuild.Json.Basic
import SketchBuild.Text.Digit

/-!
Reading JSON. A fault is told by the number of characters that are left where it lies; whole
numbers of too many digits are refused in a way of their own.
-/

namespace SketchBuild.Json

inductive FaultKind where
  | value
  | propertyName
  | colon
  | comma
  | unterminated
  | control
  | escape
  | unicodeEscape
  | extra
  | byteOrderMark
  deriving DecidableEq

/-- Why a text is no JSON value: a fault with the number of characters left there, or a whole
number of that many digits. -/
inductive Stop where
  | fault (kind : FaultKind) (left : Nat)
  | oversized (digits : Nat)
  deriving DecidableEq

abbrev Parsed (α : Type) := Except Stop (α × Text)

def isSpace (c : Char) : Bool := c = ' ' || c = '\t' || c = '\n' || c = '\r'

def skipSpace (s : Text) : Text := s.dropWhile isSpace

def fault {α : Type} (kind : FaultKind) (rest : Text) : Parsed α := .error (.fault kind rest.length)

def hexValue? (c : Char) : Option Nat :=
  if c.isDigit then some (c.toNat - '0'.toNat)
  else if 'a' ≤ c && c ≤ 'f' then some (c.toNat - 'a'.toNat + 10)
  else if 'A' ≤ c && c ≤ 'F' then some (c.toNat - 'A'.toNat + 10)
  else none

def unit? (a b c d : Char) : Option Nat := do
  return (((← hexValue? a) * 16 + (← hexValue? b)) * 16 + (← hexValue? c)) * 16 + (← hexValue? d)

def isHighSurrogate (n : Nat) : Bool := 0xD800 ≤ n && n < 0xDC00

def isLowSurrogate (n : Nat) : Bool := 0xDC00 ≤ n && n < 0xE000

/-- The character of a code point; half a pair alone is none and gets the replacement character. -/
def pointChar (n : Nat) : Char :=
  if isHighSurrogate n || isLowSurrogate n then '\uFFFD' else Char.ofNat n

/-- The text of code points in which a character above FFFF may stand as two halves. -/
def joinPairs : List Nat → Text
  | [] => []
  | [n] => [pointChar n]
  | n :: m :: ns =>
    if isHighSurrogate n && isLowSurrogate m then
      Char.ofNat (0x10000 + (n - 0xD800) * 0x400 + (m - 0xDC00)) :: joinPairs ns
    else pointChar n :: joinPairs (m :: ns)

def escaped? : Char → Option Char
  | '"' => some '"'
  | '\\' => some '\\'
  | '/' => some '/'
  | 'b' => some '\x08'
  | 'f' => some '\x0c'
  | 'n' => some '\n'
  | 'r' => some '\r'
  | 't' => some '\t'
  | _ => none

def consPoint (n : Nat) : Parsed (List Nat) → Parsed (List Nat)
  | .ok (ns, rest) => .ok (n :: ns, rest)
  | .error e => .error e

/-- The code points of a string up to its closing quote; `opening` is the text from its opening one
on. An escape by number is only seen when something follows it. -/
def readPoints (opening : Text) : Text → Parsed (List Nat)
  | [] => fault .unterminated opening
  | '"' :: s => .ok ([], s)
  | '\\' :: 'u' :: a :: b :: c :: d :: e :: s =>
    match unit? a b c d with
    | none => .error (.fault .unicodeEscape (s.length + 6))
    | some n => consPoint n (readPoints opening (e :: s))
  | '\\' :: 'u' :: s => .error (.fault .unicodeEscape (s.length + 1))
  | ['\\'] => fault .unterminated opening
  | '\\' :: c :: s =>
    match escaped? c with
    | some c => consPoint c.toNat (readPoints opening s)
    | none => .error (.fault .escape (s.length + 2))
  | c :: s =>
    if c.toNat < 0x20 then .error (.fault .control (s.length + 1))
    else consPoint c.toNat (readPoints opening s)

def readString (opening s : Text) : Parsed Text :=
  match readPoints opening s with
  | .ok (ns, rest) => .ok (joinPairs ns, rest)
  | .error e => .error e

def readNumber (s : Text) : Parsed Json :=
  match Numeral.scan s with
  | none => fault .value s
  | some (n, rest) =>
    if n.isFloat then .ok (.float n.toBinary64, rest)
    else if Text.maxDigits < n.whole.length then .error (.oversized n.whole.length)
    else .ok (.int n.toInt, rest)

def words : List (Text × Json) :=
  [("null", .null), ("true", .bool true), ("false", .bool false), ("NaN", .float .nan),
    ("Infinity", .float (.infinite false)), ("-Infinity", .float (.infinite true))]

def word? (s : Text) : Option (Json × Text) :=
  words.findSome? fun (w, v) => (Text.dropPrefix? w s).map (v, ·)

mutual

def readValue : Nat → Text → Parsed Json
  | 0, s => fault .value s
  | n + 1, s =>
    match s with
    | '"' :: r =>
      match readString s r with
      | .ok (t, rest) => .ok (.str t, rest)
      | .error e => .error e
    | '[' :: r =>
      match skipSpace r with
      | ']' :: rest => .ok (.arr [], rest)
      | r =>
        match readItems n r with
        | .ok (vs, rest) => .ok (.arr vs, rest)
        | .error e => .error e
    | '\x7b' :: r =>
      match skipSpace r with
      | '\x7d' :: rest => .ok (.obj [], rest)
      | r =>
        match readMembers n r with
        | .ok (ms, rest) => .ok (.obj (Table.ofList ms), rest)
        | .error e => .error e
    | s =>
      match word? s with
      | some r => .ok r
      | none => readNumber s

def readItems : Nat → Text → Parsed (List Json)
  | 0, s => fault .value s
  | n + 1, s =>
    match readValue n s with
    | .error e => .error e
    | .ok (v, r) =>
      match skipSpace r with
      | ']' :: rest => .ok ([v], rest)
      | ',' :: r =>
        match readItems n (skipSpace r) with
        | .ok (vs, rest) => .ok (v :: vs, rest)
        | .error e => .error e
      | r => fault .comma r

def readMembers : Nat → Text → Parsed (List (Text × Json))
  | 0, s => fault .propertyName s
  | n + 1, s =>
    match s with
    | '"' :: r =>
      match readString s r with
      | .error e => .error e
      | .ok (k, r) =>
        match skipSpace r with
        | ':' :: r =>
          match readValue n (skipSpace r) with
          | .error e => .error e
          | .ok (v, r) =>
            match skipSpace r with
            | '\x7d' :: rest => .ok ([(k, v)], rest)
            | ',' :: r =>
              match readMembers n (skipSpace r) with
              | .ok (ms, rest) => .ok ((k, v) :: ms, rest)
              | .error e => .error e
            | r => fault .comma r
        | r => fault .colon r
    | s => fault .propertyName s

end

def read (s : Text) : Except Stop Json :=
  match s with
  | '\uFEFF' :: _ => .error (.fault .byteOrderMark s.length)
  | s =>
    match readValue (2 * s.length + 2) (skipSpace s) with
    | .error e => .error e
    | .ok (v, r) =>
      match skipSpace r with
      | [] => .ok v
      | r => .error (.fault .extra r.length)

def FaultKind.message : FaultKind → Text
  | .value => "Expecting value"
  | .propertyName => "Expecting property name enclosed in double quotes"
  | .colon => "Expecting ':' delimiter"
  | .comma => "Expecting ',' delimiter"
  | .unterminated => "Unterminated string starting at"
  | .control => "Invalid control character at"
  | .escape => "Invalid \\escape"
  | .unicodeEscape => "Invalid \\uXXXX escape"
  | .extra => "Extra data"
  | .byteOrderMark => "Unexpected UTF-8 BOM (decode using utf-8-sig)"

def FaultKind.messageAt (kind : FaultKind) (left : Nat) (s : Text) : Text :=
  let before := s.take (s.length - left)
  kind.message ++ ": line " ++ Text.ofNat (Text.endLine before) ++ " column " ++
    Text.ofNat (Text.endColumn before) ++ " (char " ++ Text.ofNat before.length ++ ")"

end SketchBuild.Json
