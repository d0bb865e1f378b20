/-
  Expansion of words.

  A word expands to bits: characters that know whether they are quoted and whether they may be
  split, and marks for fields that are to be kept although empty.  Bits are split into fields, and
  fields with patterns are replaced by the paths they describe.  The commands in a word are run by a
  function that is passed in.
-/
import Retouch.Shell.Arithmetic
import Retouch.Shell.Glob
import Retouch.Shell.State

namespace Retouch.Shell

/-- What words expand to. -/
inductive Bit where
  | char (c : Char) (quoted splits : Bool)
  /-- A field starts here even if nothing follows. -/
  | mark
  /-- A field ends here. -/
  | gap
  /-- No parameters: a field with nothing else is dropped. -/
  | void
deriving Repr, DecidableEq

namespace Bit

/-- The bits of a value. -/
def ofValue (quoted : Bool) (t : Octets) : List Bit :=
  (if quoted then [mark] else []) ++ t.map fun c => char c quoted (!quoted)

/-- The characters of bits. -/
def text (bits : List Bit) : Octets :=
  bits.filterMap fun b =>
    match b with
    | char c _ _ => some c
    | gap => some ' '
    | _ => none

/-- The characters of bits with their quoting. -/
def marked (bits : List Bit) : List Marked :=
  bits.filterMap fun b =>
    match b with
    | char c quoted _ => some (c, quoted)
    | gap => some (' ', true)
    | _ => none

end Bit

/-! ## Fields -/

/-- Fields on the way, the last one first.  `spaced` tells that blanks ended the last field. -/
structure Splitting where
  done : List (List Marked) := []
  current : Option (List Marked) := none
  spaced : Bool := false

namespace Splitting

/-- Ends the current field. -/
def close (s : Splitting) : Splitting :=
  match s.current with
  | some f => { s with done := f.reverse :: s.done, current := none }
  | none => s

/-- Takes a bit in. -/
def add (separators : Octets) (s : Splitting) : Bit → Splitting
  | .mark => { s with current := some (s.current.getD []), spaced := false }
  | .gap => { s.close with spaced := false }
  | .void => s
  | .char c quoted splits =>
    if splits && !quoted && separators.contains c then
      if c == ' ' || c == '\t' || c == '\n' then
        { s.close with spaced := s.spaced || s.current.isSome }
      else if s.current.isNone && !s.spaced then
        { s with done := [] :: s.done }
      else { s.close with spaced := false }
    else { s with current := some ((c, quoted) :: s.current.getD []), spaced := false }

end Splitting

/-- Splits bits into fields. -/
def splitFields (separators : Octets) (bits : List Bit) : List (List Marked) :=
  let bits :=
    if bits.contains .void ∧ bits.all fun b => b == .void || b == .mark then [] else bits
  (bits.foldl (Splitting.add separators) {}).close.done.reverse

/-! ## Paths -/

/-- Cuts a pattern at its slashes. -/
def splitPattern (f : List Marked) : List (List Marked) := f.splitOnP (·.1 == '/')

/-- The names in a directory that a pattern may describe. -/
def candidates (tree : Tree) (place : Place) (hidden : Bool) : List Octets :=
  let names := tree.list place
  if hidden then ['.'] :: ['.', '.'] :: names.filter (·.head? == some '.')
  else names.filter (·.head? != some '.')

/-- The paths that a pattern describes, name by name.  Each is given as it is written; `start` is the
    place that its names so far lead to. -/
def matchPaths (tree : Tree) (start : Place) (lead : Octets) :
    List (List Marked) → List Octets
  | [] => []
  | pattern :: rest =>
    let glob := Glob.ofMarked pattern
    let literal := pattern.map (·.1)
    let names : List Octets :=
      if glob.isProper then (candidates tree start (literal.head? == some '.')).filter glob.accepts
      else if literal.isEmpty || (tree.getLink start literal).toOption.isSome then [literal]
      else []
    names.flatMap fun n =>
      if rest.isEmpty then [lead ++ n]
      else
        let place := if n.isEmpty then .ok start else tree.locate start n
        match place with
        | .ok place =>
          if tree.isDirectory place then matchPaths tree place (lead ++ n ++ ['/']) rest else []
        | .error _ => []

/-- The arguments that a field stands for: the paths it describes, or its own text. -/
def expandField (tree : Tree) (cwd : Place) (f : List Marked) : List Octets :=
  let plain := f.map (·.1)
  if (Glob.ofMarked f).isProper then
    let absolute := plain.head? == some '/'
    let pattern := if absolute then f.drop 1 else f
    let paths := matchPaths tree (if absolute then [] else cwd) (if absolute then ['/'] else [])
      (splitPattern pattern)
    if paths.isEmpty then [plain] else paths
  else [plain]

/-! ## Parts -/

/-- Runs commands and gives what they write. -/
abbrev Capture := List Command → Act Octets

/-- The message for a fault of an expression. -/
def arithmeticMessage (text : Octets) : Arithmetic.Fault → Octets
  | .malformed wanted =>
    "arithmetic expression: expecting ".toList ++ wanted.toList ++ ": \"".toList ++ text ++ ['"']
  | .divisionByZero => "arithmetic expression: division by zero: \"".toList ++ text ++ ['"']
  | .illegal t => "Illegal number: ".toList ++ t

/-- The value of an arithmetic expression; its assignments are carried out. -/
def calculate (text : Octets) : Act Octets := do
  let p ← process
  match Arithmetic.calculate (fun n => (p.lookup? n).getD []) text with
  | .ok (n, assigned) =>
    assigned.reverse.forM fun (name, value) => assign name (Arithmetic.ofInt value)
    return Arithmetic.ofInt n
  | .error fault => abort (arithmeticMessage text fault)

/-- All parameters, as the fields of their own. -/
def allParameters (quoted : Bool) (parameters : List Octets) : List Bit :=
  if parameters.isEmpty then [.void]
  else List.intercalate [.gap] (parameters.map (Bit.ofValue quoted))

/-- The bits of a parameter without a change. -/
def expandParameter (name : Octets) (quoted : Bool) : Act (List Bit) := do
  let p ← process
  if name = ['@'] ∨ (name = ['*'] ∧ !quoted) then return allParameters quoted p.parameters
  else if name = ['*'] then
    return Bit.ofValue true (List.intercalate (p.separators.take 1) p.parameters)
  else
    match p.parameter? name with
    | some v => return Bit.ofValue quoted v
    | none =>
      if p.options.contains 'u' then abort (name ++ ": parameter not set".toList)
      else return Bit.ofValue quoted []

/-- Characters of a word that stands for a value that is missing may be split. -/
def splitting (quoted : Bool) (bits : List Bit) : List Bit :=
  if quoted then bits
  else bits.map fun b =>
    match b with
    | .char c q _ => .char c q (!q)
    | b => b

/-- The bits of a parameter after a change; `word` expands a word. -/
def expandValue (word : Word → Act (List Bit)) (name : Octets) (change : Change) (quoted : Bool) :
    Act (List Bit) := do
  let p ← process
  let value : Option Octets :=
    if name = ['@'] ∨ name = ['*'] then
      (if p.parameters.isEmpty then none
        else some (List.intercalate (p.separators.take 1) p.parameters))
    else p.parameter? name
  let present (orEmpty : Bool) : Bool :=
    match value with
    | some v => !(orEmpty && v.isEmpty)
    | none => false
  let pattern (w : Word) : Act Glob := return Glob.ofMarked (Bit.marked (← word w))
  match change with
  | .none => expandParameter name quoted
  | .length => return Bit.ofValue quoted (Text.ofNat (value.getD []).length)
  | .fallback orEmpty w =>
    if present orEmpty then expandParameter name quoted
    else return splitting quoted (← word w)
  | .replace orEmpty w =>
    if present orEmpty then return splitting quoted (← word w) else return []
  | .assign orEmpty w =>
    if present orEmpty then expandParameter name quoted
    else
      let text := Bit.text (← word w)
      assign name text
      return Bit.ofValue quoted text
  | .require orEmpty w =>
    if present orEmpty then expandParameter name quoted
    else
      let text ← if w.isEmpty
        then pure ("parameter not set".toList ++ (if orEmpty then " or null".toList else []))
        else Bit.text <$> word w
      abort (name ++ ": ".toList ++ text)
  | .cutStart longest w => return Bit.ofValue quoted ((← pattern w).cutStart longest (value.getD []))
  | .cutEnd longest w => return Bit.ofValue quoted ((← pattern w).cutEnd longest (value.getD []))
  | .unknown => abort "Bad substitution".toList

/-- The bits of a word; `depth` bounds the nesting of words. -/
def expandBits (capture : Capture) : (depth : Nat) → Word → Act (List Bit)
  | 0, _ => return []
  | depth + 1, word => do
    let pieces ← word.mapM fun part =>
      match part with
      | .text t quoted =>
        return (if quoted then [Bit.mark] else []) ++ t.map fun c => Bit.char c quoted false
      | .value name change quoted => expandValue (expandBits capture depth) name change quoted
      | .output commands quoted => do
        let text ← capture commands
        return Bit.ofValue quoted (Text.dropEndWhile (· == '\n') text)
      | .number expression quoted => do
        let text := Bit.text (← expandBits capture depth expression)
        return Bit.ofValue quoted (← calculate text)
    return pieces.flatten

/-- How deep words may be nested in words. -/
def wordDepth : Nat := 100

/-- The home directory of a user, or one's own. -/
def home? (p : Process) (user : Octets) : Option Octets :=
  if user.isEmpty then p.lookup? "HOME".toList
  else if user = "root".toList then some "/root".toList
  else none

/-- The parts that a text with a tilde at its start stands for, up to a mark.  The text has to end
    there, or else to be the last part of its word. -/
def tildeParts (p : Process) (isMark : Char → Bool) (last : Bool) (t : Octets) : Option (List Part) :=
  match t with
  | '~' :: r =>
    let user := r.takeWhile fun c => !isMark c
    let rest := r.drop user.length
    if rest.isEmpty && !last then none
    else (home? p user).map fun h => [.text h true, .text rest false]
  | _ => none

/-- A tilde at the start of a word is the home directory. -/
def expandTilde (word : Word) : Act Word := do
  match word with
  | .text t false :: rest =>
    return ((tildeParts (← process) (· == '/') rest.isEmpty t).getD [.text t false]) ++ rest
  | _ => return word

/-- The parts of a text in which tildes may stand at the start and behind colons. -/
def tildesOf (p : Process) (last : Bool) (t : Octets) : List Part :=
  let pieces := t.splitOnP (· == ':')
  let count := pieces.length
  let parts := pieces.mapIdx fun i piece =>
    (tildeParts p (· == '/') (last || i + 1 < count) piece).getD [.text piece false]
  List.intercalate [.text [':'] false] parts

/-- The value of an assignment, with its tildes. -/
def expandTildes (word : Word) : Act Word := do
  let p ← process
  -- A tilde counts only at the start of the value or behind a colon.
  let parts := word.mapIdx fun i part =>
    match part with
    | .text t false =>
      let last := i + 1 == word.length
      if i = 0 then tildesOf p last t
      else
        let lead := t.takeWhile (· != ':')
        if lead.length = t.length then [part]
        else .text (lead ++ [':']) false :: tildesOf p last (t.drop (lead.length + 1))
    | part => [part]
  return parts.flatten

/-- The text of a word that is not split. -/
def expandText (capture : Capture) (word : Word) : Act Octets := do
  return Bit.text (← expandBits capture wordDepth (← expandTilde word))

/-- The value that is assigned by a word. -/
def expandAssigned (capture : Capture) (word : Word) : Act Octets := do
  return Bit.text (← expandBits capture wordDepth (← expandTildes word))

/-- The pattern that a word stands for. -/
def expandPattern (capture : Capture) (word : Word) : Act Glob := do
  return Glob.ofMarked (Bit.marked (← expandBits capture wordDepth word))

/-- The arguments that a word stands for. -/
def expandWord (capture : Capture) (word : Word) : Act (List Octets) := do
  let bits ← expandBits capture wordDepth (← expandTilde word)
  let s ← get
  let fields := splitFields s.process.separators bits
  if s.process.options.contains 'f' then return fields.map fun f => f.map (·.1)
  else return fields.flatMap (expandField s.world.tree s.process.directory)

/-- The arguments that words stand for. -/
def expandWords (capture : Capture) (words : List Word) : Act (List Octets) := do
  return (← words.mapM (expandWord capture)).flatten

end Retouch.Shell
