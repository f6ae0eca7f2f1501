import SketchBuild.Decimal.Shortest
import SketchBuild.Json.Basic
import SketchBuild.Text.Printable

namespace SketchBuild.Json

def unitEscape (n : Nat) : Text := '\\' :: 'u' :: Text.hex 4 n

/-- A character within a written string; those above FFFF take two code units. -/
def escape (c : Char) : Text :=
  match c with
  | '"' => "\\\""
  | '\\' => "\\\\"
  | '\n' => "\\n"
  | '\r' => "\\r"
  | '\t' => "\\t"
  | '\x08' => "\\b"
  | '\x0c' => "\\f"
  | c =>
    let n := c.toNat
    if 0x20 ≤ n && n < 0x7F then [c]
    else if n < 0x10000 then unitEscape n
    else unitEscape (0xD800 + (n - 0x10000) / 0x400) ++ unitEscape (0xDC00 + (n - 0x10000) % 0x400)

def quoted (s : Text) : Text := '"' :: s.flatMap escape ++ ['"']

def floatText (x : Binary64) : Text := x.text "NaN" "Infinity"

def atomText : Json → Text
  | .null => "null"
  | .bool true => "true"
  | .bool false => "false"
  | .int n => Text.ofInt n
  | .float x => floatText x
  | .str s => quoted s
  | _ => []

mutual

def compact : Json → Text
  | .arr items => '[' :: compactItems items ++ [']']
  | .obj members => '\x7b' :: compactMembers members ++ ['\x7d']
  | v => atomText v

def compactItems : List Json → Text
  | [] => []
  | [v] => compact v
  | v :: vs => compact v ++ ", " ++ compactItems vs

def compactMembers : List (Text × Json) → Text
  | [] => []
  | [(k, v)] => quoted k ++ ": " ++ compact v
  | (k, v) :: ms => quoted k ++ ": " ++ compact v ++ ", " ++ compactMembers ms

end

def newline (depth : Nat) : Text := '\n' :: List.replicate (2 * depth) ' '

mutual

def indented (depth : Nat) : Json → Text
  | .arr [] => "[]"
  | .arr (v :: vs) => '[' :: indentedItems (depth + 1) (v :: vs) ++ newline depth ++ [']']
  | .obj [] => ['\x7b', '\x7d']
  | .obj (m :: ms) => '\x7b' :: indentedMembers (depth + 1) (m :: ms) ++ newline depth ++ ['\x7d']
  | v => atomText v

def indentedItems (depth : Nat) : List Json → Text
  | [] => []
  | [v] => newline depth ++ indented depth v
  | v :: vs => newline depth ++ indented depth v ++ ',' :: indentedItems depth vs

def indentedMembers (depth : Nat) : List (Text × Json) → Text
  | [] => []
  | [(k, v)] => newline depth ++ quoted k ++ ": " ++ indented depth v
  | (k, v) :: ms =>
    newline depth ++ quoted k ++ ": " ++ indented depth v ++ ',' :: indentedMembers depth ms

end

def pretty (v : Json) : Text := indented 0 v

mutual

def shown : Json → Text
  | .null => "None"
  | .bool true => "True"
  | .bool false => "False"
  | .int n => Text.ofInt n
  | .float x => x.text "nan" "inf"
  | .str s => Text.literal s
  | .arr items => '[' :: shownItems items ++ [']']
  | .obj members => '\x7b' :: shownMembers members ++ ['\x7d']

def shownItems : List Json → Text
  | [] => []
  | [v] => shown v
  | v :: vs => shown v ++ ", " ++ shownItems vs

def shownMembers : List (Text × Json) → Text
  | [] => []
  | [(k, v)] => Text.literal k ++ ": " ++ shown v
  | (k, v) :: ms => Text.literal k ++ ": " ++ shown v ++ ", " ++ shownMembers ms

end

def plain : Json → Text
  | .str s => s
  | v => shown v

end SketchBuild.Json
