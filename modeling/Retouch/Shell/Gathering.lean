/-
  Commands that are built from arguments in the input.

  The input is cut into arguments; they are gathered until a command line is full, which is then run.
-/
import Retouch.Pattern.Scan
import Retouch.Shell.Format
import Retouch.Shell.Wrapper

namespace Retouch.Shell

/-! ## Arguments -/

/-- An argument, and whether a line ends behind it. -/
structure Argument where
  text : Octets
  endsLine : Bool

/-- How the arguments of an input are read: what has been read of the one that has started, the
    quote that is open, whether the last character was an escape, and the arguments in reverse. -/
structure Gathering where
  part : Option Octets := none
  quote : Option Char := none
  escaped : Bool := false
  done : List Argument := []
  /-- A quote is left open. -/
  fault : Option Char := none

namespace Gathering

/-- Adds a character to the argument. -/
def push (g : Gathering) (c : Char) : Gathering :=
  { g with part := some (c :: g.part.getD []), escaped := false }

/-- Ends the argument, if there is one. -/
def close (g : Gathering) (endsLine : Bool) : Gathering :=
  match g.part with
  | none => g
  | some t => { g with part := none, done := ⟨t.reverse, endsLine⟩ :: g.done }

/-- Reads a character; with `byLine` only lines part the arguments. -/
def step (byLine : Bool) (g : Gathering) (c : Char) : Gathering :=
  if g.fault.isSome then g
  else if g.escaped then g.push c
  else
    match g.quote with
    | some q =>
      if c = q then { g with quote := none }
      else if c = '\n' then { g with fault := some q }
      else g.push c
    | none =>
      if c = '\n' then g.close true
      else if (c = ' ' || c = '\t') && (!byLine || g.part.isNone) then g.close false
      else if c = '\\' then { g with escaped := true, part := some (g.part.getD []) }
      else if c = '\'' || c = '"' then { g with quote := some c, part := some (g.part.getD []) }
      else g.push c

/-- The arguments of an input, and the quote that is left open. -/
def ofInput (byLine : Bool) (t : Octets) : List Argument × Option Char :=
  let g := t.foldl (step byLine) {}
  match g.fault, g.quote with
  | some q, _ => (g.done.reverse, some q)
  | none, some q => (g.done.reverse, some q)
  | none, none => ((g.close false).done.reverse, none)

end Gathering

/-! ## Requests -/

/-- What is asked for.  Of the three ways to cut the arguments, by number, by line or one for each
    command in place of a text, at most one is set. -/
structure GatheringRequest where
  byNumber : Option Nat := none
  byLines : Option Nat := none
  inPlaceOf : Option Octets := none
  delimiter : Option Char := none
  source : Option Octets := none
  lastWord : Option Octets := none
  size : Nat := 131072
  onlyIfAny : Bool := false
  traces : Bool := false
  words : List Octets

/-- The number that is the value of an option, not below a least one. -/
def countOption (option : Char) (least : Nat) (t : Octets) : Utility Nat :=
  match Text.natBelow? (Nat.pow 2 31) t with
  | none => Utility.misuse ("invalid number \"".toList ++ t ++ "\" for -".toList ++ option :: " option".toList) 1
  | some n => do
    if n < least then
      Utility.misuse ("value ".toList ++ t ++ " for -".toList ++ option :: " option should be >= ".toList ++
        Text.ofNat least) 1
    return n

/-- The character that a delimiter stands for. -/
def delimiterOf (t : Octets) : Utility Char := do
  match t, Format.unescape t with
  | [c], _ => return c
  | '\\' :: _, ([c], _) => return c
  | _, _ =>
    Utility.refuse ("Invalid input delimiter specification ".toList ++ t ++
      ": the delimiter must be either a single character or an escape sequence starting with \\.".toList) 1

/-- Two options exclude each other, so that the earlier one is left out. -/
def exclude (earlier later : String) : Utility Unit :=
  Utility.warn ("xargs: warning: options ".toList ++ earlier.toList ++ " and ".toList ++ later.toList ++
    " are mutually exclusive, ignoring previous ".toList ++ earlier.toList ++ " value\n".toList)

/-- The request with one more option. -/
def GatheringRequest.add (q : GatheringRequest) (option : Char) (value : Octets) :
    Utility GatheringRequest := do
  match option with
  | 'n' =>
    let n ← countOption 'n' 1 value
    if q.byLines.isSome then exclude "--max-lines" "--max-args/-n"
    if q.inPlaceOf.isSome && n = 1 then return q
    if q.inPlaceOf.isSome then exclude "--replace" "--max-args/-n"
    return { q with byNumber := some n, byLines := none, inPlaceOf := none }
  | 'L' | 'l' =>
    let n ← if value.isEmpty then pure 1 else countOption option 1 value
    let name := if option = 'L' then "-L" else "--max-lines/-l"
    if q.byNumber.isSome then exclude "--max-args" name
    if q.inPlaceOf.isSome then exclude "--replace" name
    return { q with byNumber := none, byLines := some n, inPlaceOf := none }
  | 'I' | 'i' =>
    if q.byNumber.isSome then exclude "--max-args" "--replace/-I/-i"
    if q.byLines.isSome then exclude "--max-lines" "--replace/-I/-i"
    let text := if value.isEmpty then "\x7b\x7d".toList else value
    return { q with byNumber := none, byLines := none, inPlaceOf := some text }
  | '0' => return { q with delimiter := some '\x00' }
  | 'd' => return { q with delimiter := some (← delimiterOf value) }
  | 'a' => return { q with source := some value }
  | 'E' => return { q with lastWord := some value }
  | 'e' => return { q with lastWord := if value.isEmpty then none else some value }
  | 's' => return { q with size := min q.size (← countOption 's' 1 value) }
  | 'P' =>
    discard (countOption 'P' 0 value)
    return q
  | 'r' => return { q with onlyIfAny := true }
  | 't' => return { q with traces := true }
  | _ => return q

/-- Reads the arguments of `xargs`. -/
def readGathering : Utility (GatheringRequest × List Argument × Option Char) := do
  let g : Utility.Grammar :=
    { plain := "0rtxo", valued := "nILdaEsP", optional := "iel", inFront := true
      long := [("null", '0'), ("no-run-if-empty", 'r'), ("verbose", 't'), ("exit", 'x'),
        ("max-args", 'n'), ("replace", 'i'), ("max-lines", 'l'), ("delimiter", 'd'),
        ("arg-file", 'a'), ("eof", 'e'), ("max-chars", 's'), ("max-procs", 'P'), ("open-tty", 'o')] }
  let o ← Utility.options g
  let words := if o.operands.isEmpty then ["echo".toList] else o.operands
  let q ← o.flags.foldlM (fun q f => GatheringRequest.add q f.1 f.2) { words := words }
  let text ← match q.source with
    | none => Utility.input
    | some path =>
      match ← Utility.content path with
      | .ok t => pure t
      | .error f =>
        Utility.refuse ("Cannot open input file ".toList ++ Utility.about (Utility.quote path) f) 1
  Utility.exhaust
  let (found, open_) :=
    match q.delimiter with
    | some d => ((Utility.records d text).map fun t => Argument.mk t true, none)
    | none => Gathering.ofInput q.inPlaceOf.isSome text
  let isLast (a : Argument) : Bool := q.lastWord = some a.text && q.delimiter.isNone
  return (q, found.takeWhile (!isLast ·), if found.any isLast then none else open_)

/-! ## Running -/

/-- A word such that the shell takes it for one, with quotes only where they are needed. -/
def shownWord (t : Octets) : Octets :=
  if !t.isEmpty && t.all (fun c => c.isAlphanum || "%+,-./:=@_^".toList.contains c) then t
  else Utility.quoteName t

/-- What is left of the gathering: the arguments that wait for their command, the last one first, how
    many lines they have ended, and whether a command has failed. -/
structure Gathered where
  waiting : List Octets := []
  lines : Nat := 0
  ran : Bool := false
  failed : Bool := false

/-- Ends with a message. -/
def giveUp {α : Type} (name message : Octets) (status : Nat) : Act α := do
  write 2 (name ++ ": ".toList ++ message ++ ['\n'])
  setStatus status
  throw .exit

/-- Runs a command line; tells whether it has failed. -/
def runLine (find : Finder) (name : Octets) (traces : Bool) (words : List Octets) : Act Bool := do
  let word := words.headD []
  if traces then write 2 (List.intercalate [' '] (words.map shownWord) ++ ['\n'])
  pass startTime
  match ← find word (words.drop 1) with
  | .error fault =>
    let (text, status) := fault.spoken
    giveUp name (word ++ ": ".toList ++ text.toList) status
  | .ok act =>
    let died ← asChild do
      modifyProcess fun p => { p with descriptors := (0, .null) :: p.descriptors.filter (·.1 != 0) }
      act
    let s ← status
    match died with
    | some signal => giveUp name (word ++ ": terminated by signal ".toList ++ Text.ofNat signal) 125
    | none =>
      if s = 255 then giveUp name (word ++ ": exited with status 255; aborting".toList) 124
      return s ≠ 0

/-- Runs the command of the arguments that wait. -/
def Gathered.flush (g : Gathered) (find : Finder) (name : Octets) (q : GatheringRequest) : Act Gathered := do
  let failed ← runLine find name q.traces (q.words ++ g.waiting.reverse)
  return { waiting := [], lines := 0, ran := true, failed := g.failed || failed }

/-- The size of words on a command line. -/
def lineSize (words : List Octets) : Nat := words.foldl (fun n w => n + w.length + 1) 0

/-- Takes one more argument, and runs what is full. -/
def Gathered.take (find : Finder) (name : Octets) (q : GatheringRequest) (g : Gathered) (a : Argument) :
    Act Gathered := do
  match q.inPlaceOf with
  | some part =>
    let args := (q.words.drop 1).map (Text.replaceAll part a.text)
    let failed ← runLine find name q.traces (q.words.take 1 ++ args)
    return { g with ran := true, failed := g.failed || failed }
  | none =>
    let base := lineSize q.words
    if q.size < base + a.text.length + 1 then giveUp name "argument line too long".toList 1
    let g ← if q.size < base + lineSize g.waiting + a.text.length + 1 then g.flush find name q else pure g
    let g := { g with waiting := a.text :: g.waiting, lines := g.lines + if a.endsLine then 1 else 0 }
    if q.byNumber = some g.waiting.length || q.byLines.any (· ≤ g.lines) then g.flush find name q
    else return g

/-- Runs commands whose arguments are in the input. -/
def gatheringProgram (run : RunCommand) (find : Finder) (name : Octets) (args : List Octets) :
    Act Unit := do
  match ← runUtility run readGathering (← callHere name args) with
  | none => return ()
  | some (q, found, open_) =>
    if q.size < lineSize q.words then
      giveUp name "cannot fit single argument within argument list size limit".toList 1
    let g ← found.foldlM (Gathered.take find name q) {}
    match open_ with
    | some c =>
      giveUp name ("unmatched ".toList ++ (if c = '"' then "double" else "single").toList ++
        " quote; by default quotes are special to xargs unless you use the -0 option".toList) 1
    | none => pure ()
    let g ←
      if !g.waiting.isEmpty || (!g.ran && !q.onlyIfAny && q.inPlaceOf.isNone) then g.flush find name q
      else pure g
    setStatus (if g.failed then 123 else 0)

end Retouch.Shell
