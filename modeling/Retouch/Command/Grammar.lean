/-
  Command lines: what commands take, and how their arguments are read.

  A command has operands, which all have to be there, and options, which may.  Options start with two
  dashes; a value follows an option as the next argument or after an equals sign.  Two dashes alone
  end the options.  No option may be given twice.  Arguments are read from left to right, and what
  comes first counts: a fault, or a request for help.
-/
import Retouch.Text.Basic

namespace Retouch.Command

/-- What the value of an option is. -/
inductive ValueKind where
  /-- A text that is not empty. -/
  | path
  /-- A number below 2^64. -/
  | count
deriving Repr, DecidableEq

/-- An option; one without a kind of values is on or off. -/
structure Parameter where
  name : String
  kind : Option ValueKind := none
  about : String
  /-- The value if the option is left out, as the help shows it. -/
  initial : Option String := none
deriving Repr, DecidableEq

/-- An operand. -/
structure Operand where
  name : String
  about : String
deriving Repr, DecidableEq

/-- A command with its operands and options. -/
structure Spec where
  name : String
  about : String
  operands : List Operand := []
  parameters : List Parameter := []
deriving Repr, DecidableEq

/-- What arguments give. -/
structure Given where
  values : List (String × Text) := []
  flags : List String := []
  operands : List Text := []
deriving Repr, DecidableEq

/-- Why reading ends early. -/
inductive Stop where
  /-- The arguments do not fit. -/
  | usage
  /-- Help is asked for; a name tells for which command. -/
  | help (command : Option String)
  | version
deriving Repr, DecidableEq

/-- The number that a text stands for, below 2^64; a plus sign may come first. -/
def count? (t : Text) : Option Nat :=
  match t with
  | '+' :: r => Text.natBelow? (Nat.pow 2 64) r
  | _ => Text.natBelow? (Nat.pow 2 64) t

/-- Whether a text is a value of a kind. -/
def ValueKind.accepts : ValueKind → Text → Bool
  | path, t => !t.isEmpty
  | count, t => (count? t).isSome

/-- Whether an argument is read as an option. -/
def looksLikeOption : Text → Bool
  | '-' :: _ :: _ => true
  | _ => false

namespace Given

/-- The value of an option. -/
def value? (g : Given) (name : String) : Option Text :=
  (g.values.find? (·.1 == name)).map (·.2)

/-- Whether an option is there. -/
def has (g : Given) (name : String) : Bool :=
  g.flags.contains name || g.values.any (·.1 == name)

/-- One operand more, if the command takes it. -/
def addOperand (g : Given) (spec : Spec) (t : Text) : Except Stop Given :=
  if g.operands.length < spec.operands.length ∧ !t.isEmpty then
    .ok { g with operands := g.operands ++ [t] }
  else .error .usage

/-- One value more. -/
def addValue (g : Given) (p : Parameter) (kind : ValueKind) (t : Text) : Except Stop Given :=
  if g.has p.name || !kind.accepts t then .error .usage
  else .ok { g with values := g.values ++ [(p.name, t)] }

/-- One flag more. -/
def addFlag (g : Given) (p : Parameter) : Except Stop Given :=
  if g.has p.name then .error .usage else .ok { g with flags := g.flags ++ [p.name] }

end Given

/-- The name of a long option and the value after an equals sign. -/
def splitLong (t : Text) : Text × Option Text :=
  let name := t.takeWhile (· != '=')
  (name, if name.length < t.length then some (t.drop (name.length + 1)) else none)

/-- Takes a long option in, with the arguments after it; gives those that are left. -/
def readLong (spec : Spec) (t : Text) (rest : List Text) (g : Given) :
    Except Stop (Given × List Text) :=
  let (name, value) := splitLong t
  if name = "help".toList then .error (if value.isSome then .usage else .help (some spec.name))
  else
    match spec.parameters.find? (·.name.toList == name) with
    | none => .error .usage
    | some p =>
      match p.kind, value, rest with
      | none, some _, _ => .error .usage
      | none, none, _ => (g.addFlag p).map (·, rest)
      | some kind, some v, _ => (g.addValue p kind v).map (·, rest)
      | some kind, none, v :: rest =>
        if looksLikeOption v then .error .usage else (g.addValue p kind v).map (·, rest)
      | some _, none, [] => .error .usage

/-- Reads the arguments of a command; `fuel` bounds their number. -/
def readArgs (spec : Spec) : (fuel : Nat) → List Text → Given → Except Stop Given
  | 0, _, _ => .error .usage
  | _, [], g => .ok g
  | fuel + 1, a :: rest, g =>
    match a with
    | ['-', '-'] => rest.foldlM (fun g t => Given.addOperand g spec t) g
    | '-' :: '-' :: t => do
      let (g, rest) ← readLong spec t rest g
      readArgs spec fuel rest g
    | '-' :: c :: _ => .error (if c = 'h' then .help (some spec.name) else .usage)
    | _ => do readArgs spec fuel rest (← g.addOperand spec a)

/-- What the arguments of a command give; all operands have to be there. -/
def Spec.read (spec : Spec) (args : List Text) : Except Stop Given := do
  let g ← readArgs spec (args.length + 1) args {}
  if g.operands.length < spec.operands.length then .error .usage else .ok g

end Retouch.Command
