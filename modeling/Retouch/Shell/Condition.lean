/-
  Conditions: the expressions of `test`.

  Conditions are read from the arguments by descent: alternatives over conjunctions over negations
  over primaries.  A primary is a comparison, a property of a file or a text, or a text, which holds
  if it is not empty.
-/
import Retouch.Files.Tree
import Retouch.Shell.Arithmetic

namespace Retouch.Shell.Condition

/-- Operators with one operand. -/
def unary : List String :=
  ["-e", "-f", "-d", "-r", "-w", "-x", "-s", "-z", "-n", "-L", "-h", "-p", "-S", "-b", "-c", "-t",
    "-u", "-g", "-k", "-O", "-G"]

/-- Operators with two operands. -/
def binary : List String :=
  ["=", "!=", "<", ">", "-eq", "-ne", "-lt", "-le", "-gt", "-ge", "-nt", "-ot", "-ef"]

/-- Whether a text is one of some operators. -/
def isOne (operators : List String) (t : Octets) : Bool := operators.any (·.toList == t)

/-- A step of reading: the arguments left and the last one read, or a message. -/
abbrev Parse := StateT (List Octets × Octets) (Except Octets)

/-- A message about an argument. -/
def refuse {α : Type} (about : Octets) (message : String) : Parse α :=
  throw (about ++ ": ".toList ++ message.toList)

/-- The argument that comes next. -/
def next? : Parse (Option Octets) := return (← get).1.head?

/-- Goes over one argument. -/
def skip : Parse Unit := modify fun (args, last) => (args.drop 1, args.headD last)

/-- The whole number that an argument stands for. -/
def integer (t : Octets) : Parse Int :=
  let digits := (Text.trim t).dropWhile fun c => c == '-' || c == '+'
  match Text.natBelow? (Nat.pow 2 63) digits, (Text.trim t).head? with
  | some n, some '-' => return -n
  | some n, _ => return n
  | none, _ => throw ("Illegal number: ".toList ++ t)

/-- What the files are like: the tree, and the directory that paths start from. -/
structure View where
  tree : Tree
  cwd : Place

/-- What a path leads to, if it leads to something. -/
def View.node? (v : View) (path : Octets) : Option Node := (v.tree.get v.cwd path).toOption

/-- Whether a file has a property. -/
def fileHolds (operator : Octets) (n : Node) : Bool :=
  match String.ofList operator, n with
  | "-e", _ | "-r", _ | "-w", _ | "-O", _ | "-G", _ => true
  | "-f", .file _ _ | "-d", .directory _ | "-c", .device _ | "-x", .directory _ => true
  | "-s", .directory _ => true
  | "-s", .file content _ => !content.isEmpty
  | "-x", n => n.isExecutable
  | "-u", n => n.info.mode &&& 0o4000 != 0
  | "-g", n => n.info.mode &&& 0o2000 != 0
  | "-k", n => n.info.mode &&& 0o1000 != 0
  | _, _ => false

/-- Whether a file or a text has a property. -/
def holds (v : View) (operator : Octets) (t : Octets) : Bool :=
  match String.ofList operator with
  | "-z" => t.isEmpty
  | "-n" => !t.isEmpty
  | "-t" => false
  | "-L" | "-h" =>
    match v.tree.getLink v.cwd t with
    | .ok (.link _) => true
    | _ => false
  | _ => (v.node? t).any (fileHolds operator)

/-- Times closer than this, in microseconds, are not told apart. -/
def timeGrain : Nat := 4000

/-- Whether the file at a path was changed after the one at another. -/
def isNewer (v : View) (a b : Octets) : Bool :=
  match v.node? a, v.node? b with
  | some m, some n => n.info.changed / timeGrain < m.info.changed / timeGrain
  | _, _ => false

/-- Whether two texts compare as an operator says. -/
def compare (v : View) (a operator b : Octets) : Parse Bool := do
  match String.ofList operator with
  | "=" => return a == b
  | "!=" => return a != b
  | "<" => return a < b
  | ">" => return b < a
  | "-nt" => return isNewer v a b
  | "-ot" => return isNewer v b a
  | "-ef" =>
    return (v.node? a).isSome && (v.node? b).isSome &&
      (v.tree.locate v.cwd a).toOption == (v.tree.locate v.cwd b).toOption
  | o =>
    let m ← integer a
    let n ← integer b
    match o with
    | "-eq" => return m == n
    | "-ne" => return m != n
    | "-lt" => return m < n
    | "-le" => return m ≤ n
    | "-gt" => return m > n
    | _ => return m ≥ n

/-- A primary; `whole` reads a condition between parentheses. -/
def readPrimary (v : View) (whole : Parse Bool) : Parse Bool := do
  let (args, last) ← get
  match args with
  | [] =>
    if last.isEmpty then throw "argument expected".toList else refuse last "argument expected"
  | a :: rest =>
    let second := rest.head?
    let third := rest[1]?
    let operand := second.isNone || (third.isSome && (second.map (isOne binary)).getD false)
    if a == ['('] && second.isSome then
      skip
      let b ← whole
      if (← next?) = some [')'] then
        skip
        return b
      else throw "closing paren expected".toList
    else if isOne unary a && !operand then
      skip
      skip
      return holds v a (second.getD [])
    else
      skip
      match ← next? with
      | some o =>
        if isOne binary o then
          skip
          match ← next? with
          | some b =>
            skip
            compare v a o b
          | none => refuse o "argument expected"
        else return !a.isEmpty
      | none => return !a.isEmpty

/-- A condition at a level: alternatives, conjunctions, negations; `fuel` bounds the nesting. -/
def readLevel (v : View) : (fuel : Nat) → (level : Nat) → Parse Bool
  | 0, _ => throw "too deep".toList
  | fuel + 1, 0 => do
    let a ← readLevel v fuel 1
    if (← next?) = some ['-', 'o'] then
      skip
      let b ← readLevel v fuel 0
      return a || b
    else return a
  | fuel + 1, 1 => do
    let a ← readLevel v fuel 2
    if (← next?) = some ['-', 'a'] then
      skip
      if (← next?).isNone then return false
      let b ← readLevel v fuel 1
      return a && b
    else return a
  | fuel + 1, _ => do
    let (args, _) ← get
    if args.head? = some ['!'] && args.length > 1 then
      skip
      return !(← readLevel v fuel 2)
    else readPrimary v (readLevel v fuel 0)

/-- Whether the condition in the arguments holds; no arguments are a condition that fails. -/
def eval (v : View) (args : List Octets) : Except Octets Bool :=
  match args with
  | [] => .ok false
  | [a, o, b] =>
    if isOne binary o then (compare v a o b).run' ([], []) else general
  | _ => general
where
  /-- Reads all arguments. -/
  general : Except Octets Bool := do
    let (b, (rest, last)) ← (readLevel v (4 * args.length + 8) 0).run (args, [])
    if rest.isEmpty then return b else throw (last ++ ": unexpected operator".toList)

end Retouch.Shell.Condition
