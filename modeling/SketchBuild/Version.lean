import SketchBuild.Table
import SketchBuild.Text.Digit
import SketchBuild.Text.Lowercase

namespace SketchBuild

structure Version.Mark where
  word : Text
  digits : Text
  deriving DecidableEq

structure Version where
  epoch : Text := []
  release : List Text
  pre : Option Version.Mark := none
  post : Option Version.Mark := none
  dev : Option Version.Mark := none
  locals : List Text := []
  deriving DecidableEq

namespace Version

def spanDigits (s : Text) : Text × Text := (s.takeWhile Char.isDigit, s.dropWhile Char.isDigit)

def numberOf (digits : Text) : Nat := digits.foldl (fun n c => 10 * n + (c.toNat - '0'.toNat)) 0

def isSeparator (c : Char) : Bool := c = '-' || c = '_' || c = '.'

def dropSeparator : Text → Text
  | [] => []
  | c :: s => if isSeparator c then s else c :: s

def epoch? (s : Text) : Text × Text :=
  match spanDigits s with
  | ([], _) => ([], s)
  | (digits, '!' :: rest) => (digits, rest)
  | _ => ([], s)

/-- Further release numbers at the start of a text, each behind a point; `n` bounds how many. -/
def moreRelease : Nat → Text → List Text × Text
  | 0, s => ([], s)
  | n + 1, s =>
    match s with
    | '.' :: r =>
      match spanDigits r with
      | ([], _) => ([], s)
      | (digits, rest) =>
        let (more, rest) := moreRelease n rest
        (digits :: more, rest)
    | _ => ([], s)

def release? (s : Text) : Option (List Text × Text) :=
  match spanDigits s with
  | ([], _) => none
  | (digits, rest) =>
    let (more, rest) := moreRelease rest.length rest
    some (digits :: more, rest)

def spellings : Table Text Text :=
  [("alpha", "a"), ("beta", "b"), ("c", "rc"), ("pre", "rc"), ("preview", "rc"), ("rev", "post"),
    ("r", "post")]

def usual (word : Text) : Text := (Table.find? (Text.lower word) spellings).getD (Text.lower word)

/-- A mark at the start of a text, perhaps behind a separator, with the number behind it. Of the
given words the first that fits is read. -/
def mark? (words : List Text) (s : Text) : Option (Mark × Text) := do
  let (word, rest) ← words.findSome? (Text.splitWord? · (dropSeparator s))
  let (digits, rest) := spanDigits (dropSeparator rest)
  return ({ word := usual word, digits }, rest)

def preWords : List Text := ["alpha", "a", "beta", "b", "preview", "pre", "c", "rc"]

def postWords : List Text := ["post", "rev", "r"]

def devWords : List Text := ["dev"]

def post? (s : Text) : Option (Mark × Text) :=
  let bare : Option (Mark × Text) := match s with
    | '-' :: r =>
      match spanDigits r with
      | ([], _) => none
      | (digits, rest) => some (⟨"post", digits⟩, rest)
    | _ => none
  bare.or (mark? postWords s)

def optional (found : Option (Mark × Text)) (s : Text) : Option Mark × Text :=
  match found with
  | some (mark, rest) => (some mark, rest)
  | none => (none, s)

def isLocalChar (c : Char) : Bool := c.isAlphanum || Text.casePartners.any (·.2 = c)

def localParts (s : Text) : Option (List Text) :=
  (Text.pieces '.' (s.map fun c => if isSeparator c then '.' else c)).mapM fun part =>
    if part ≠ [] && part.all isLocalChar then some part else none

def scan (s : Text) : Option Version := do
  let s := match s with
    | 'v' :: r | 'V' :: r => r
    | s => s
  let (epoch, s) := epoch? s
  let (release, s) ← release? s
  let (pre, s) := optional (mark? preWords s) s
  let (post, s) := optional (post? s) s
  let (dev, s) := optional (mark? devWords s) s
  match s with
  | [] => some { epoch, release, pre, post, dev }
  | '+' :: s => (localParts s).map fun locals => { epoch, release, pre, post, dev, locals }
  | _ => none

def isNumber (part : Text) : Bool := part.all Char.isDigit

def numbers (v : Version) : List Text :=
  v.epoch :: v.release ++ (v.pre.toList ++ v.post.toList ++ v.dev.toList).map Mark.digits ++
    v.locals.filter isNumber

inductive Fault where
  | malformed
  | oversized (digits : Nat)
  deriving DecidableEq

def read (s : Text) : Except Fault Version :=
  match scan (Text.strip s) with
  | none => .error .malformed
  | some v =>
    match v.numbers.find? fun digits => Text.maxDigits < digits.length with
    | some digits => .error (.oversized digits.length)
    | none => .ok v

def Mark.key (m : Mark) : List (List Nat) := [m.word.map Char.toNat, [numberOf m.digits]]

/-- The sort key of a mark before the final release: a development release without other marks
comes first, the final release last. -/
def preKey (v : Version) : List (List Nat) :=
  match v.pre with
  | some m => [1] :: m.key
  | none => if v.post.isNone && v.dev.isSome then [[0]] else [[2]]

/-- The sort key of a mark for a later release: a release without one comes first. -/
def postKey (v : Version) : List (List Nat) :=
  match v.post with
  | some m => [1] :: m.key
  | none => [[0]]

/-- The sort key of a mark for development: a release without one comes last. -/
def devKey (v : Version) : List (List Nat) :=
  match v.dev with
  | some m => [0] :: m.key
  | none => [[1]]

/-- A part of a local mark as a sort key: words come before numbers. -/
def localKey (part : Text) : List Nat :=
  if isNumber part then [1, numberOf part] else 0 :: (Text.lower part).map Char.toNat

def trimmed (release : List Nat) : List Nat := (release.reverse.dropWhile (· = 0)).reverse

def key (v : Version) : List (List Nat) :=
  [numberOf v.epoch] :: trimmed (v.release.map numberOf) ::
    v.preKey ++ v.postKey ++ v.devKey ++ v.locals.map localKey

def isBefore (v w : Version) : Bool := decide (v.key < w.key)

end Version

end SketchBuild
