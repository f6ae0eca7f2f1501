import SketchBuild.Text.Digit
import SketchBuild.Text.Printable

namespace SketchBuild.Options

inductive Kind where
  | help
  | version
  | flag
  | value (choices : List Text)
  deriving DecidableEq

structure Spec where
  names : List Text
  kind : Kind := .flag
  isRequired : Bool := false
  deriving DecidableEq

structure Grammar where
  program : Text
  argument : Option Text := none
  options : List Spec

inductive Stop where
  | help
  | version
  | fault (message : Text)
  deriving DecidableEq

def Spec.takesValue (o : Spec) : Bool :=
  match o.kind with
  | .value _ => true
  | _ => false

def Spec.label (o : Spec) : Text := ['/'].intercalate o.names

def Spec.fault (o : Spec) (message : Text) : Stop :=
  .fault ("argument " ++ o.label ++ ": " ++ message)

def Spec.ignored (o : Spec) (text : Text) : Stop :=
  o.fault ("ignored explicit argument " ++ Text.literal text)

def Grammar.named (g : Grammar) : List (Text × Spec) :=
  g.options.flatMap fun o => o.names.map (·, o)

def Grammar.option? (g : Grammar) (name : Text) : Option Spec :=
  (g.named.find? (·.1 = name)).map Prod.snd

inductive Token where
  | plain (s : Text)
  | dashes
  | unknown (s : Text)
  | option (o : Spec) (name : Text) (attached : Option Text)
  deriving DecidableEq

def splitEquals (s : Text) : Text × Option Text :=
  let name := s.takeWhile (· ≠ '=')
  match s.dropWhile (· ≠ '=') with
  | [] => (name, none)
  | _ :: text => (name, some text)

def Grammar.abbreviated (g : Grammar) (s : Text) : List (Text × Spec × Option Text) :=
  match s with
  | '-' :: '-' :: _ =>
    let (start, attached) := splitEquals s
    (g.named.filter fun (name, _) => start.isPrefixOf name).map fun (name, o) => (name, o, attached)
  | a :: b :: rest =>
    g.named.filterMap fun (name, o) =>
      if name = [a, b] then some (name, o, some rest)
      else if s.isPrefixOf name then some (name, o, none)
      else none
  | _ => []

def dropFinalNewline (s : Text) : Text := (Text.dropSuffix? ['\n'] s).getD s

def isNegativeNumber (s : Text) : Bool :=
  match dropFinalNewline s with
  | '-' :: t =>
    let rest := t.dropWhile Text.isDigit
    match rest with
    | [] => t ≠ []
    | '.' :: fraction => fraction ≠ [] && fraction.all Text.isDigit
    | _ => false
  | _ => false

def Grammar.token (g : Grammar) (s : Text) : Except Stop Token :=
  if s.head? ≠ some '-' then .ok (.plain s)
  else match g.option? s with
    | some o => .ok (.option o s none)
    | none =>
      if s.length = 1 then .ok (.plain s)
      else
        let (name, attached) := splitEquals s
        match attached, g.option? name with
        | some text, some o => .ok (.option o name (some text))
        | _, _ =>
          match g.abbreviated s with
          | [(name, o, attached)] => .ok (.option o name attached)
          | [] => .ok (if isNegativeNumber s || s.contains ' ' then .plain s else .unknown s)
          | several =>
            .error (.fault ("ambiguous option: " ++ s ++ " could match " ++
              [',', ' '].intercalate (several.map Prod.fst)))

def Grammar.tokens (g : Grammar) : List Text → Except Stop (List Token)
  | [] => .ok []
  | s :: rest =>
    if s = ['-', '-'] then .ok (.dashes :: rest.map .plain)
    else do
      let t ← g.token s
      let ts ← g.tokens rest
      return t :: ts

inductive Use where
  | bare (o : Spec)
  | valued (o : Spec) (value : Text)
  deriving DecidableEq

def isShort (name : Text) : Bool :=
  match name with
  | _ :: c :: _ => c ≠ '-'
  | _ => false

/-- What an option with an attached text asks for. A text behind a short option that takes no
value holds further short options, whether an equals sign came first or not. -/
def Grammar.uses (g : Grammar) (o : Spec) (name : Text) : Text → Except Stop (List Use)
  | [] => if o.takesValue then .ok [.valued o []] else .error (o.ignored [])
  | c :: rest =>
    if o.takesValue then .ok [.valued o (c :: rest)]
    else if !isShort name then .error (o.ignored (c :: rest))
    else match g.option? ['-', c], rest with
      | none, _ => .error (o.ignored (c :: rest))
      | some next, [] => .ok [.bare o, .bare next]
      | some next, d :: text => (g.uses next ['-', c] (d :: text)).map (.bare o :: ·)

structure Given where
  argument : Option Text := none
  options : List (Text × Option Text) := []
  extras : List Text := []
  deriving DecidableEq

def Given.addOption (p : Given) (o : Spec) (value : Option Text) : Given :=
  { p with options := p.options ++ [(o.names.headD [], value)] }

/-- Follows the use of an option. A double hyphen that is attached to an option leaves it without
a value. -/
def Given.follow (p : Given) : Use → Except Stop Given
  | .bare o =>
    match o.kind with
    | .help => .error .help
    | .version => .error .version
    | _ => .ok (p.addOption o none)
  | .valued o value =>
    match o.kind with
    | .value choices =>
      if value = ['-', '-'] then .ok (p.addOption o none)
      else if choices = [] || value ∈ choices then .ok (p.addOption o (some value))
      else .error (o.fault ("invalid choice: " ++ Text.literal value ++ " (choose from " ++
        [',', ' '].intercalate (choices.map Text.literal) ++ ")"))
    | _ => .ok (p.addOption o (some value))

def Given.followAll (p : Given) (uses : List Use) : Except Stop Given := uses.foldlM Given.follow p

def complete (uses : List Use) (value : Text) : List Use :=
  match uses.getLast? with
  | some (.bare o) => uses.dropLast ++ [.valued o value]
  | _ => uses

def needsValue (uses : List Use) : Option Spec :=
  match uses.getLast? with
  | some (.bare o) => if o.takesValue then some o else none
  | _ => none

def Grammar.run (g : Grammar) (p : Given) : List Token → Except Stop Given
  | [] => .ok p
  | .unknown s :: rest => g.run { p with extras := p.extras ++ [s] } rest
  | .plain s :: rest =>
    if g.argument.isSome && p.argument.isNone then
      match rest with
      | .dashes :: rest => g.run { p with argument := some s } rest
      | rest => g.run { p with argument := some s } rest
    else g.run { p with extras := p.extras ++ [s] } rest
  | .dashes :: rest =>
    match rest, g.argument.isSome && p.argument.isNone with
    | .plain s :: rest, true => g.run { p with argument := some s } rest
    | rest, _ => g.run { p with extras := p.extras ++ [['-', '-']] } rest
  | .option o name attached :: rest =>
    let uses : Except Stop (List Use) := match attached with
      | none => .ok [.bare o]
      | some text => g.uses o name text
    match uses with
    | .error e => .error e
    | .ok uses =>
      match needsValue uses, rest with
      | none, rest =>
        match p.followAll uses with
        | .error e => .error e
        | .ok p => g.run p rest
      | some _, .plain value :: rest =>
        match p.followAll (complete uses value) with
        | .error e => .error e
        | .ok p => g.run p rest
      | some o, _ => .error (o.fault "expected one argument")

def Grammar.missing (g : Grammar) (p : Given) : List Text :=
  (if p.argument.isNone then g.argument.toList else []) ++
    ((g.options.filter fun o =>
      o.isRequired && !p.options.any (·.1 = o.names.headD [])).map Spec.label)

def Grammar.parse (g : Grammar) (arguments : List Text) : Except Stop Given := do
  let tokens ← g.tokens arguments
  let p ← g.run {} tokens
  let missing := g.missing p
  if missing ≠ [] then
    throw (.fault ("the following arguments are required: " ++ [',', ' '].intercalate missing))
  if p.extras ≠ [] then
    throw (.fault ("unrecognized arguments: " ++ [' '].intercalate p.extras))
  return p

def Given.has (p : Given) (name : Text) : Bool := p.options.any (·.1 = name)

def Given.all (p : Given) (name : Text) : List (Option Text) :=
  (p.options.filter (·.1 = name)).map Prod.snd

def Given.value? (p : Given) (name : Text) : Option Text := (p.all name).getLast?.join

def Given.lacksValue (p : Given) (name : Text) : Bool := (p.all name).getLast? = some none

end SketchBuild.Options
