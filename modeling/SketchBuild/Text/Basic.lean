namespace SketchBuild

abbrev Text := List Char

instance : Coe String Text := ⟨String.toList⟩

instance : LawfulBEq Text := inferInstanceAs (LawfulBEq (List Char))

namespace Text

def ofNat (n : Nat) : Text := Nat.toDigits 10 n

def ofInt : Int → Text
  | .ofNat n => ofNat n
  | .negSucc n => '-' :: ofNat (n + 1)

def extend (v : Text) : List Text → List Text
  | [] => [v]
  | w :: ws => (v ++ w) :: ws

/-- The pieces between the occurrences of a separator: one more than there are separators. -/
def pieces (sep : Char) : Text → List Text
  | [] => [[]]
  | c :: s => if c = sep then [] :: pieces sep s else extend [c] (pieces sep s)

def dropPrefix? : (p s : Text) → Option Text
  | [], s => some s
  | _ :: _, [] => none
  | a :: p, b :: s => if a = b then dropPrefix? p s else none

def dropSuffix? (p s : Text) : Option Text :=
  (dropPrefix? p.reverse s.reverse).map List.reverse

def stripEnd (c : Char) (s : Text) : Text := (s.reverse.dropWhile (· = c)).reverse

def isUpTo : Text → Text → Bool
  | [], _ => true
  | _ :: _, [] => false
  | a :: s, b :: t => a.toNat < b.toNat || (a = b && isUpTo s t)

def occursIn (p s : Text) : Bool :=
  p.isPrefixOf s || match s with
    | [] => false
    | _ :: s => occursIn p s

/-- White space: tab to carriage return, the separators 1C to 1F, and the Unicode spaces. -/
def isBlank (c : Char) : Bool :=
  let n := c.toNat
  (9 ≤ n && n ≤ 13) || (28 ≤ n && n ≤ 32) || n = 0x85 || n = 0xA0 || n = 0x1680 ||
    (0x2000 ≤ n && n ≤ 0x200A) || n = 0x2028 || n = 0x2029 || n = 0x202F || n = 0x205F || n = 0x3000

def stripLeft (s : Text) : Text := s.dropWhile isBlank

def stripRight (s : Text) : Text := (s.reverse.dropWhile isBlank).reverse

def strip (s : Text) : Text := stripRight (stripLeft s)

def unifyNewlines : Text → Text
  | [] => []
  | '\r' :: '\n' :: s => '\n' :: unifyNewlines s
  | c :: s => (if c = '\r' then '\n' else c) :: unifyNewlines s

def lines (s : Text) : List Text := pieces '\n' s

def endColumn (s : Text) : Nat := (s.reverse.takeWhile (· ≠ '\n')).length + 1

def endLine (s : Text) : Nat := s.count '\n' + 1

/-- ASCII letters with the letters beyond ASCII that match them: the i with a dot or without one,
the Kelvin sign and the long s. -/
def casePartners : List (Char × Char) := [('i', 'İ'), ('i', 'ı'), ('k', 'K'), ('s', 'ſ')]

def isAnyCase (letter c : Char) : Bool := c.toLower = letter || (letter, c) ∈ casePartners

def splitWord? : (word s : Text) → Option (Text × Text)
  | [], s => some ([], s)
  | _ :: _, [] => none
  | letter :: word, c :: s =>
    if isAnyCase letter c then (splitWord? word s).map fun (found, rest) => (c :: found, rest)
    else none

def startsAnyCase (word s : Text) : Bool := (splitWord? word s).isSome

def occursAnyCase (word : Text) : Text → Bool
  | [] => startsAnyCase word []
  | c :: s => startsAnyCase word (c :: s) || occursAnyCase word s

end Text

end SketchBuild
