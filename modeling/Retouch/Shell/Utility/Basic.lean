/-
  Utilities: the programs that scripts call.

  A utility is started with a name, arguments, an input and a directory.  It writes output and
  messages, changes the tree of files and ends with a status.  An input may be the start of one that
  never ends: a utility that needs only a part of it says so (`settle`), one that needs all of it
  waits forever (`exhaust`), and for any other one the output never ends either.
-/
import Retouch.Files.Tree

namespace Retouch.Shell

/-- What a utility is started with. -/
structure Call where
  name : Octets
  args : List Octets
  input : Octets
  /-- The input never ends, and `input` is its start. -/
  endless : Bool := false
  /-- The input is a file, so that what is not used can be left to others. -/
  isFile : Bool := false
  cwd : Place
  environment : List (Octets × Octets) := []
  umask : Nat := 0o022

/-- What a utility has done so far. -/
structure Work where
  tree : Tree
  /-- What has been written, and whether it is a message; the last piece comes first. -/
  written : List (Bool × Octets) := []
  status : Nat := 0
  /-- What is left of the input, if some of it was read. -/
  left : Option Octets := none
  /-- Something endless has been read. -/
  endless : Bool := false
  /-- The utility never ends. -/
  stuck : Bool := false
  /-- Output is written at once, and not at the end. -/
  direct : Bool := false
  /-- Time spent asleep, in microseconds. -/
  asleep : Nat := 0

/-- The pieces of output or of messages, in order. -/
def Work.pieces (w : Work) (messages : Bool) : List Octets :=
  (w.written.filter (·.1 == messages)).reverse.map (·.2)

/-- The activity of a utility; an exception ends it early. -/
abbrev Utility := ExceptT Unit (ReaderT Call (StateM Work))

namespace Utility

/-! ## Output -/

/-- Writes to the output. -/
def say (t : Octets) : Utility Unit :=
  modify fun w => if t.isEmpty then w else { w with written := (false, t) :: w.written }

/-- A line with its newline. -/
def endLine (t : Octets) : Octets := t ++ ['\n']

/-- Writes a line. -/
def sayLine (t : Octets) : Utility Unit := say (endLine t)

/-- Writes to the messages as it is. -/
def warn (t : Octets) : Utility Unit := modify fun w => { w with written := (true, t) :: w.written }

/-- Sets the status at the end. -/
def setStatus (n : Nat) : Utility Unit := modify fun w => { w with status := n }

/-- Writes a message and sets the status. -/
def complain (message : Octets) (status : Nat) : Utility Unit := do
  warn ((← read).name ++ ": ".toList ++ message ++ ['\n'])
  setStatus status

/-- Ends with a message. -/
def refuse {α : Type} (message : Octets) (status : Nat) : Utility α := do
  complain message status
  throw ()

/-- Ends with a message that points to the help. -/
def misuse {α : Type} (message : Octets) (status : Nat) : Utility α := do
  complain message status
  let name := (← read).name
  warn ("Try '".toList ++ name ++ " --help' for more information.\n".toList)
  throw ()

/-- Digits of a number in base eight, three at least. -/
def threeOctal (n : Nat) : Octets :=
  let digits := Nat.toDigits 8 n
  List.replicate (3 - digits.length) '0' ++ digits

/-- A character that has no sign of its own, as an escape. -/
def escapedChar (c : Char) : Octets :=
  match c with
  | '\x07' => "\\a".toList
  | '\x08' => "\\b".toList
  | '\t' => "\\t".toList
  | '\n' => "\\n".toList
  | '\x0b' => "\\v".toList
  | '\x0c' => "\\f".toList
  | '\r' => "\\r".toList
  | c => '\\' :: threeOctal c.toNat

/-- Whether a character has a sign of its own. -/
def isShown (c : Char) : Bool := ' ' ≤ c && c ≤ '~'

/-- A text between quotes. -/
def quote (t : Octets) : Octets :=
  '\'' :: (t.flatMap fun c =>
    if c = '\'' || c = '\\' then ['\\', c] else if isShown c then [c] else escapedChar c) ++ ['\'']

/-- Whether a character stands for itself between double quotes. -/
def standsQuoted (c : Char) : Bool :=
  c.isAlphanum || c == '\'' || " %+,-./:]_".toList.contains c

/-- The name of a file between quotes, such that the shell takes it for one word. -/
def quoteName (t : Octets) : Octets :=
  if t.contains '\'' && t.all standsQuoted then '"' :: t ++ ['"']
  else
    let runs := t.splitBy fun a b => isShown a == isShown b
    let shown (run : Octets) : Octets :=
      '\'' :: (run.flatMap fun c => if c = '\'' then "'\\''".toList else [c]) ++ ['\'']
    let first : Octets := if t.head?.any isShown then [] else "''".toList
    first ++ runs.flatMap fun run =>
      if run.head?.any isShown then shown run
      else "$'".toList ++ run.flatMap escapedChar ++ ['\'']

/-- What is wrong with something. -/
def about (what : Octets) (fault : FileFault) : Octets := what ++ ": ".toList ++ fault.text.toList

/-- A message about a file and what is wrong with it. -/
def blame (what : String) (path : Octets) (fault : FileFault) (status : Nat) : Utility Unit :=
  complain (about (what.toList ++ quoteName path) fault) status

/-! ## Input -/

/-- Nothing more is read, so that an endless input makes no difference. -/
def settle : Utility Unit := modify fun w => { w with endless := false }

/-- All of what was read is needed before anything is written. -/
def exhaust : Utility Unit := modify fun w => if w.endless then { w with stuck := true } else w

/-- All of the input. -/
def input : Utility Octets := do
  let call ← read
  let t := match (← get).left with | some t => t | none => call.input
  modify fun w => { w with left := some [], endless := w.endless || call.endless }
  return t

/-- Puts what is left of the input back, if that is possible. -/
def leave (rest : Octets) : Utility Unit := do
  if (← read).isFile then modify fun w => { w with left := some rest }

/-- How much there is of something endless. -/
def endlessSize : Nat := 1048576

/-- The content of a device. -/
def deviceContent (d : Device) : Utility Octets := do
  match d with
  | .null | .terminal => return []
  | .zero | .full | .random =>
    modify fun w => { w with endless := true }
    return List.replicate endlessSize '\x00'

/-- Names of the input as a file. -/
def inputNames : List String := ["-", "/dev/stdin", "/dev/fd/0", "/proc/self/fd/0"]

/-- The content of the file that a path leads to; a single dash is the input. -/
def content (path : Octets) : Utility (Except FileFault Octets) := do
  if inputNames.any (·.toList == path) then return .ok (← input)
  else
    let tree := (← get).tree
    match tree.get (← read).cwd path with
    | .ok (.device d) => return .ok (← deviceContent d)
    | _ => return tree.read (← read).cwd path

/-- Changes the tree, or says why not. -/
def change (f : Tree → Except FileFault Tree) : Utility (Option FileFault) := do
  match f (← get).tree with
  | .ok tree =>
    modify fun w => { w with tree := tree }
    return none
  | .error fault => return some fault

/-- The permissions of something new. -/
def newMode (mode : Nat) : Utility Nat := do
  let umask := (← read).umask
  return mode &&& (0o7777 ^^^ umask)

/-- Names of the two outputs as files. -/
def outputNames : List (String × Bool) :=
  [("/dev/stdout", false), ("/dev/stderr", true), ("/dev/fd/1", false), ("/dev/fd/2", true)]

/-- Writes a text to a file; with `append`, behind what it holds. -/
def store (path : Octets) (append : Bool) (t : Octets) : Utility (Option FileFault) := do
  match outputNames.find? (·.1.toList == path) with
  | some (_, messages) =>
    if messages then warn t else say t
    return none
  | none =>
    let cwd := (← read).cwd
    let mode ← newMode 0o666
    change fun tree => do
      tree.edit (← tree.locate cwd path) mode fun old => if append then old ++ t else t

/-! ## Lines -/

/-- The lines of a text without their newlines. -/
def bareLines (t : Octets) : List Octets :=
  (Text.lines t).map fun l => if l.getLast? = some '\n' then l.dropLast else l

/-- Pieces of a text that end by a mark, without it; after the last mark there is one more only if it
    is not empty. -/
def records (mark : Char) (t : Octets) : List Octets :=
  let pieces := t.splitOnP (· == mark)
  if pieces.getLast? = some [] then pieces.dropLast else pieces

/-- Does something for the content of each file, or says why it cannot be read. -/
def forFiles (paths : List Octets) (what : Octets → Octets) (status : Nat)
    (f : Octets → Octets → Utility Unit) : Utility Unit :=
  paths.forM fun p => do
    match ← content p with
    | .ok t => f p t
    | .error fault => complain (about (what p) fault) status

/-- A file that cannot be opened, as some utilities say it. -/
def unopened (p : Octets) : Octets := "cannot open ".toList ++ quote p ++ " for reading".toList

/-- A number right-aligned in a column. -/
def column (width n : Nat) : Octets :=
  let digits := Text.ofNat n
  List.replicate (width - digits.length) ' ' ++ digits

/-! ## Options -/

/-- Options with their values, and the operands. -/
structure Options where
  flags : List (Char × Octets) := []
  operands : List Octets := []

namespace Options

/-- Whether an option is given. -/
def has (o : Options) (c : Char) : Bool := o.flags.any (·.1 == c)

/-- The last value of an option. -/
def value? (o : Options) (c : Char) : Option Octets :=
  (o.flags.reverse.find? (·.1 == c)).map (·.2)

/-- The values of an option. -/
def values (o : Options) (c : Char) : List Octets := (o.flags.filter (·.1 == c)).map (·.2)

/-- The option among some that is given last. -/
def last? (o : Options) (among : String) : Option Char :=
  (o.flags.reverse.find? fun f => among.toList.contains f.1).map (·.1)

end Options

/-- What options a utility takes: those without a value, those with one, those that may have one in
    the same argument, and long names for letters. -/
structure Grammar where
  plain : String := ""
  valued : String := ""
  optional : String := ""
  long : List (String × Char) := []
  /-- The first operand ends the options. -/
  inFront : Bool := false
  /-- The status after a misuse. -/
  status : Nat := 1

/-- Cuts a group of letters into options; one that takes a value takes the rest of the group, or the
    next argument. -/
def cluster (g : Grammar) (args : List Octets) :
    Octets → Except Octets (List (Char × Octets) × List Octets)
  | [] => .ok ([], args)
  | c :: t =>
    if g.valued.toList.contains c then
      match t, args with
      | [], [] => .error ("option requires an argument -- ".toList ++ quote [c])
      | [], a :: rest => .ok ([(c, a)], rest)
      | _, _ => .ok ([(c, t)], args)
    else if g.optional.toList.contains c then .ok ([(c, t)], args)
    else if g.plain.toList.contains c then do
      let (flags, rest) ← cluster g args t
      return ((c, []) :: flags, rest)
    else .error ("invalid option -- ".toList ++ quote [c])

/-- The option with a long name, given without its dashes, and the arguments left.  A name may be cut
    short as long as it is the only one that starts so. -/
def longOption (g : Grammar) (t : Octets) (args : List Octets) :
    Except Octets ((Char × Octets) × List Octets) :=
  let name := t.takeWhile (· != '=')
  let value? : Option Octets := if name.length < t.length then some (t.drop (name.length + 1)) else none
  let starting := g.long.filter fun l => name.isPrefixOf l.1.toList
  let exact := starting.filter fun l => l.1.toList == name
  let candidates := if exact.isEmpty then starting else exact
  match candidates with
  | [] => .error ("unrecognized option '--".toList ++ t ++ ['\''])
  | (full, c) :: others =>
    if others.any (·.2 != c) then
      .error ("option '--".toList ++ t ++ "' is ambiguous; possibilities:".toList ++
        (starting.map fun l => " '--".toList ++ l.1.toList ++ ['\'']).flatten)
    else if g.valued.toList.contains c then
      match value?, args with
      | some v, _ => .ok ((c, v), args)
      | none, v :: rest => .ok ((c, v), rest)
      | none, [] => .error ("option '--".toList ++ full.toList ++ "' requires an argument".toList)
    else
      match value? with
      | some v =>
        if g.optional.toList.contains c then .ok ((c, v), args)
        else .error ("option '--".toList ++ full.toList ++ "' doesn't allow an argument".toList)
      | none => .ok ((c, []), args)

/-- Sorts arguments into options and operands; two dashes end the options.  `fuel` bounds their
    number. -/
def sortArgs (g : Grammar) : (fuel : Nat) → List Octets → Except Octets Options
  | 0, args => .ok { operands := args }
  | _, [] => .ok {}
  | fuel + 1, a :: args =>
    if a = ['-', '-'] then .ok { operands := args }
    else
      match a with
      | '-' :: '-' :: t => do
        let (flag, args) ← longOption g t args
        let others ← sortArgs g fuel args
        return { others with flags := flag :: others.flags }
      | '-' :: c :: t => do
        let (flags, args) ← cluster g args (c :: t)
        let others ← sortArgs g fuel args
        return { others with flags := flags ++ others.flags }
      | _ =>
        if g.inFront then .ok { operands := a :: args }
        else do
          let others ← sortArgs g fuel args
          return { others with operands := a :: others.operands }

/-- Some arguments as options and operands.  An option that is not known ends the utility. -/
def optionsOf (g : Grammar) (args : List Octets) : Utility Options :=
  match sortArgs g (args.length + 1) args with
  | .ok o => return o
  | .error message => misuse message g.status

/-- The options and operands of the call. -/
def options (g : Grammar) : Utility Options := do optionsOf g (← read).args

/-- The files that operands name, or the input if there are none. -/
def sources (o : Options) : List Octets := if o.operands.isEmpty then [['-']] else o.operands

end Utility

end Retouch.Shell
