import SketchBuild.Text.Basic

namespace SketchBuild.Command

/-- Where a reader of a command line stands: between words, or in a word outside quotes, behind a
run of backslashes, or inside quotes. -/
inductive Mode where
  | between
  | bare
  | slashes (count : Nat)
  | double
  | doubleSlash
  | single
  deriving DecidableEq

def enter (c : Char) : Mode × Text :=
  if c = '"' then (.double, [])
  else if c = '\'' then (.single, [])
  else if c = '\\' then (.slashes 1, [])
  else (.bare, [c])

def slashRun (n : Nat) : Text := List.replicate n '\\'

/-- The words of the rest of a command line. In a word, the first one is what is left of it. -/
def scan : Mode → Text → List Text
  | .between, [] => []
  | .slashes n, [] => [slashRun n]
  | .doubleSlash, [] => [['\\']]
  | _, [] => [[]]
  | .between, c :: s =>
    if Text.isBlank c then scan .between s else Text.extend (enter c).2 (scan (enter c).1 s)
  | .bare, c :: s =>
    if Text.isBlank c then [] :: scan .between s else Text.extend (enter c).2 (scan (enter c).1 s)
  | .slashes n, c :: s =>
    if c = '\\' then scan (.slashes (n + 1)) s
    else if c = '"' then
      if n % 2 = 1 then Text.extend (slashRun (n / 2) ++ ['"']) (scan .bare s)
      else Text.extend (slashRun (n / 2)) (scan .double s)
    else if Text.isBlank c then slashRun n :: scan .between s
    else Text.extend (slashRun n ++ (enter c).2) (scan (enter c).1 s)
  | .double, c :: s =>
    if c = '"' then scan .bare s
    else if c = '\\' then scan .doubleSlash s
    else Text.extend [c] (scan .double s)
  | .doubleSlash, c :: s =>
    if c = '"' || c = '\\' then Text.extend [c] (scan .double s)
    else Text.extend ['\\', c] (scan .double s)
  | .single, c :: s => if c = '\'' then scan .bare s else Text.extend [c] (scan .single s)

def words (line : Text) : List Text := scan .between line

def needsQuotes (word : Text) : Bool :=
  word.isEmpty || word.any fun c => Text.isBlank c || c = '"' || c = '\''

def escape (c : Char) : Text := if c = '"' || c = '\\' then ['\\', c] else [c]

def quote (word : Text) : Text :=
  if needsQuotes word then '"' :: word.flatMap escape ++ ['"'] else word

def line (words : List Text) : Text := [' '].intercalate (words.map quote)

end SketchBuild.Command
