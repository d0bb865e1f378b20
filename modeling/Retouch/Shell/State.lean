/-
  The state in which scripts run.

  The world is what processes share: files, channels and the clock.  A channel is a buffer that is
  written at its end and read from its start; pipes, here-documents, files opened for reading and
  the two outputs of a program are channels.  A process has its own variables, parameters,
  directory and descriptors.  Time is virtual: commands cost some microseconds, sleeping costs what
  it says, and a script that goes beyond the deadline is stopped.  Processes run one after another,
  each on its own stretch of time; what they write to one channel is put in order by time.
-/
import Retouch.Files.Tree
import Retouch.Shell.Script
import Retouch.Shell.Signal

namespace Retouch.Shell

/-! ## Channels -/

/-- A buffer.  What has been written is in pieces with their times, the last one first. -/
structure Channel where
  ready : Octets := []
  written : List (Nat × Octets) := []
  /-- What is there goes on in the same way without an end. -/
  endless : Bool := false
  /-- It is a file: what a program has read but not used is there for the next one. -/
  isFile : Bool := false
deriving Inhabited

namespace Channel

/-- Whether pieces, the last one first, are in order of time. -/
def inOrder : List (Nat × Octets) → Bool
  | a :: b :: rest => b.1 ≤ a.1 && inOrder (b :: rest)
  | _ => true

/-- All that is in the buffer. -/
def content (c : Channel) : Octets :=
  if c.written.isEmpty then c.ready
  else
    let pieces := c.written.reverse
    let pieces := if inOrder c.written then pieces else pieces.mergeSort fun a b => a.1 ≤ b.1
    c.ready ++ (pieces.map (·.2)).flatten

end Channel

/-! ## Processes -/

/-- What a descriptor is connected to. -/
inductive Target where
  | null
  /-- Nothing can be written any more. -/
  | full
  | channel (index : Nat)
  | file (place : Place)
deriving Repr, DecidableEq

/-- A process. -/
structure Process where
  /-- The number that a script finds for itself; a part of it that runs apart finds it too. -/
  number : Nat := 1
  /-- The number that is really its own. -/
  identity : Nat := 1
  parent : Nat := 1
  /-- The name of the script. -/
  name : Octets
  parameters : List Octets := []
  bindings : List (Octets × Octets) := []
  exported : List Octets := []
  constant : List Octets := []
  functions : List (Octets × Command) := []
  aliases : List (Octets × Octets) := []
  /-- For each function that runs, the variables that are its own, with their values outside. -/
  locals : List (List (Octets × Option Octets)) := []
  directory : Place
  /-- The directory as it was gone to, by way of links. -/
  route : Place
  descriptors : List (Nat × Target)
  /-- What is done on signals, by their numbers. -/
  traps : List (Nat × Octets) := []
  status : Nat := 0
  /-- The status of the last command whose output stands in the running command. -/
  captured : Nat := 0
  line : Nat := 1
  /-- The command of the shell that runs and can fail. -/
  command : Octets := []
  /-- Letters of the options that are set. -/
  options : List Char := []
  /-- Permissions that new files do not get. -/
  umask : Nat := 0o022
  /-- The argument that is looked at next for options. -/
  optionIndex : Nat := 1
  /-- How much of an argument with several options has been looked at. -/
  optionOffset : Nat := 0
  /-- The status from before a trap that runs. -/
  saved : Option Nat := none
  /-- Programs that have been looked for, with their paths. -/
  hashed : List (Octets × Octets) := []
  /-- The running command is the last one of the process, which it may become. -/
  final : Bool := false
  /-- When the process last waited for another one. -/
  waited : Nat := 0
  /-- Whether a failure is looked at by the command around it. -/
  tested : Bool := false
  /-- The number of loops around the running command. -/
  loops : Nat := 0

/-! ## World -/

/-- How a process ended. -/
structure Ending where
  time : Nat
  status : Nat
  signal : Option Nat := none

/-- A process in the background, which runs when something waits for it. -/
structure Job where
  number : Nat
  owner : Nat
  started : Nat
  command : Command
  /-- The process as it starts. -/
  self : Process
  /-- When it will end, and when it will send a first signal, as far as that has been found out. -/
  forecast : Option (Nat × Option Nat) := none
  /-- How it ended; a job that is being run has already got an end. -/
  ended : Option Ending := none

/-- A signal on its way. -/
structure Sent where
  time : Nat
  process : Nat
  signal : Nat
deriving Repr, DecidableEq

/-- What processes share.  Times are in microseconds. -/
structure World where
  tree : Tree
  channels : Array Channel := #[]
  clock : Nat := 0
  deadline : Nat
  /-- The last one comes first. -/
  jobs : List Job := []
  sent : List Sent := []
  lastProcess : Nat := 1
  /-- The processes that run, apart from jobs. -/
  alive : List Nat := []

/-- The time at which the clock starts, from the first second of the year 1970 on. -/
def epoch : Nat := 1760000000 * 1000000

/-- The world at another time. -/
def World.setClock (w : World) (time : Nat) : World :=
  { w with clock := time, tree := { w.tree with now := epoch + time } }

/-- The world as a process sees it. -/
structure State where
  world : World
  process : Process

/-- Why a command does not go on with the next one. -/
inductive Leave where
  | exit
  /-- A fault that ends the shell, unless it is one of a command that may fail. -/
  | fault
  /-- A signal ends the process with a number. -/
  | killed (process signal : Nat)
  /-- The deadline has passed. -/
  | overtime
  | break_ (levels : Nat)
  | continue_ (levels : Nat)
  | return_
deriving Repr, DecidableEq

/-- The activity of a process. -/
abbrev Act := ExceptT Leave (StateM State)

/-! ## Access -/

/-- The running process. -/
def process : Act Process := return (← get).process

/-- Changes the running process. -/
def modifyProcess (f : Process → Process) : Act Unit :=
  modify fun s => { s with process := f s.process }

/-- Changes the world. -/
def modifyWorld (f : World → World) : Act Unit := modify fun s => { s with world := f s.world }

/-- The status of the last command. -/
def status : Act Nat := return (← process).status

/-- Sets the status. -/
def setStatus (n : Nat) : Act Unit := modifyProcess fun p => { p with status := n }

/-- The time. -/
def clock : Act Nat := return (← get).world.clock

/-- Goes to another time. -/
def setClock (time : Nat) : Act Unit := modifyWorld (·.setClock time)

/-- Lets time pass. -/
def pass (micros : Nat) : Act Unit := do
  modifyWorld fun w => w.setClock (w.clock + micros)
  let w := (← get).world
  if w.deadline < w.clock then throw .overtime

/-- The time that a command of the shell takes. -/
def commandTime : Nat := 20

/-- The time that a round of a loop takes beside its commands. -/
def roundTime : Nat := 5

/-- The time that a program takes to start. -/
def startTime : Nat := 1000

/-- A number for a new process. -/
def newProcess : Act Nat := do
  modifyWorld fun w => { w with lastProcess := w.lastProcess + 1 }
  return (← get).world.lastProcess

/-- A new channel with some content. -/
def newChannel (content : Octets) : Act Nat := do
  let index := (← get).world.channels.size
  modifyWorld fun w => { w with channels := w.channels.push { ready := content } }
  return index

/-- A channel. -/
def channelAt (index : Nat) : Act Channel := return ((← get).world.channels[index]?).getD {}

/-- Replaces the content of a channel. -/
def setChannel (index : Nat) (content : Octets) : Act Unit :=
  modifyWorld fun w =>
    { w with channels := w.channels.modify index fun c => { c with ready := content, written := [] } }

/-- What a descriptor is connected to. -/
def target? (descriptor : Nat) : Act (Option Target) := do
  return ((← process).descriptors.find? (·.1 == descriptor)).map (·.2)

/-- The world after a write. -/
def World.write (w : World) (t : Target) (text : Octets) : World :=
  match t with
  | .null | .full => w
  | .channel i =>
    { w with
      channels := w.channels.modify i fun c => { c with written := (w.clock, text) :: c.written } }
  | .file place =>
    -- A file that is gone takes what is written with it.
    if (w.tree.node? place).isNone then w
    else
      match w.tree.edit place fileMode (· ++ text) with
      | .ok tree => { w with tree := tree }
      | .error _ => w

/-- Writes to a descriptor. -/
def write (descriptor : Nat) (text : Octets) : Act Unit := do
  if text.isEmpty then return ()
  match ← target? descriptor with
  | some t => modifyWorld (·.write t text)
  | none => return ()

/-- Marks what is written to a descriptor as endless.  Only a process that reads it can make an end,
    so there has to be one. -/
def writeEndless (descriptor : Nat) : Act Unit := do
  match ← target? descriptor with
  | some (.channel i) =>
    modifyWorld fun w =>
      { w with channels := w.channels.modify i fun c => { c with endless := true } }
  | _ => throw .overtime

/-- Why nothing can be written to a descriptor, if that is so. -/
def writeFault? (descriptor : Nat) : Act (Option String) := do
  match ← target? descriptor with
  | none => return some "Bad file descriptor"
  | some .full => return some "No space left on device"
  | some _ => return none

/-- Writes to the output. -/
def say (text : Octets) : Act Unit := write 1 text

/-- The channel that the input comes from. -/
def inputChannel : Act Channel := do
  match ← target? 0 with
  | some (.channel i) => channelAt i
  | _ => return {}

/-- All that can be read from the input. -/
def peekInput : Act Octets := return (← inputChannel).content

/-- Leaves some text in the input. -/
def setInput (content : Octets) : Act Unit := do
  match ← target? 0 with
  | some (.channel i) => setChannel i content
  | _ => return ()

/-- Writes a message of the shell, with the name of the script and the line. -/
def report (message : Octets) : Act Unit := do
  let p ← process
  write 2 (p.name ++ ": ".toList ++ Text.ofNat p.line ++ ": ".toList ++
    (if p.command.isEmpty then [] else p.command ++ ": ".toList) ++ message ++ ['\n'])

/-- Writes a message and ends the process, or the command that may fail. -/
def abort {α : Type} (message : Octets) : Act α := do
  report message
  setStatus 2
  throw .fault

/-- Runs something after which a part of the process is put back, whatever happens. -/
def restoring {α : Type} (restore : Process → Process) (act : Act α) : Act α := do
  let a ← tryCatch act fun e => do
    modifyProcess restore
    throw e
  modifyProcess restore
  return a

/-! ## Variables -/

/-- The value of a variable. -/
def Process.lookup? (p : Process) (name : Octets) : Option Octets :=
  (p.bindings.find? (·.1 == name)).map (·.2)

/-- The process with a value for a variable. -/
def Process.assign (p : Process) (name value : Octets) : Process :=
  { p with
    bindings := (name, value) :: p.bindings.filter (·.1 != name)
    exported :=
      if p.options.contains 'a' && !p.exported.contains name then name :: p.exported else p.exported
    optionIndex :=
      if name = "OPTIND".toList then (Text.natBelow? (Nat.pow 2 31) value).getD 1 else p.optionIndex
    optionOffset := if name = "OPTIND".toList then 0 else p.optionOffset }

/-- The process without a variable. -/
def Process.forget (p : Process) (name : Octets) : Process :=
  { p with
    bindings := p.bindings.filter (·.1 != name)
    exported := p.exported.filter (· != name) }

/-- The process with a variable that programs see. -/
def Process.passOn (p : Process) (name : Octets) : Process :=
  { p with exported := name :: p.exported.filter (· != name) }

/-- The row of the table of variables that a variable stands in. -/
def tableRow (name : Octets) : Nat :=
  (name.foldl (fun n c => n + c.toNat) (16 * (name.headD '\x00').toNat)) % 39

/-- The variables that programs see, with their values, row by row of the table. -/
def Process.environment (p : Process) : List (Octets × Octets) :=
  (p.bindings.reverse.filter fun v => p.exported.contains v.1).mergeSort fun a b =>
    tableRow a.1 ≤ tableRow b.1

/-- Gives a variable a value, unless it is constant.  This takes a microsecond for each byte. -/
def assign (name value : Octets) : Act Unit := do
  pass value.length
  if (← process).constant.contains name then abort (name ++ ": is read only".toList)
  modifyProcess (·.assign name value)

/-- The letters of the options, in the order in which they are shown. -/
def optionLetters : List Char := "pubaCEVvxsnmiIfe".toList

/-- The value of a parameter. -/
def Process.parameter? (p : Process) (name : Octets) : Option Octets :=
  match name with
  | ['?'] => some (Text.ofNat p.status)
  | ['#'] => some (Text.ofNat p.parameters.length)
  | ['$'] => some (Text.ofNat p.number)
  | ['!'] => p.lookup? name
  | ['-'] => some (optionLetters.filter p.options.contains)
  | ['0'] => some p.name
  | _ =>
    if name.all Char.isDigit then p.parameters[Text.digitsValue name - 1]? else p.lookup? name

/-- The characters at which fields are split. -/
def Process.separators (p : Process) : Octets := (p.lookup? "IFS".toList).getD " \t\n".toList

/-- Runs something whose failure is looked at. -/
def tested {α : Type} (act : Act α) : Act α := do
  let before := (← process).tested
  modifyProcess fun p => { p with tested := true }
  restoring (fun p => { p with tested := before }) act

/-- Repeats a step on a value until it says that it is done; `fuel` bounds the repetitions. -/
def iterate {α : Type} (step : α → Act (α × Bool)) : (fuel : Nat) → α → Act α
  | 0, _ => throw .overtime
  | fuel + 1, a => do
    let (a, done) ← step a
    if done then return a else iterate step fuel a

/-- Tells that a signal has ended a process. -/
def tellDeath (signal : Nat) : Act Unit := do
  let death := Signal.death signal
  if death ≠ "" then write 2 (death.toList ++ ['\n'])

/-- Runs something as the process with a number: what it does to the process is undone, what it does
    to the world stays, and its status is kept.  Gives the signal that has ended it, if one has. -/
def asProcess (number : Nat) (change : Process → Process) (act : Act Unit) : Act (Option Nat) := do
  let before ← process
  modifyWorld fun w => { w with alive := number :: w.alive }
  modifyProcess fun p => { change p with identity := number, parent := p.identity }
  let died ← restoring (fun p => { before with status := p.status }) <|
    tryCatch (do act; return none) fun e =>
      match e with
      | .exit | .fault | .return_ | .break_ _ | .continue_ _ => return none
      | .killed n signal => do
        if n ≠ number then throw e
        setStatus (128 + signal)
        return some signal
      | .overtime => throw e
  modifyWorld fun w => { w with alive := w.alive.erase number }
  let now ← clock
  modifyProcess fun p => { p with waited := now }
  return died

/-- The process of a part of a script: of what is done on signals, it only ignores some. -/
def Process.part (p : Process) : Process :=
  { p with traps := p.traps.filter (·.2.isEmpty), final := true }

/-- Runs something in a process of its own, and tells if a signal ends it. -/
def apart (act : Act Unit) : Act Unit := do
  match ← asProcess (← newProcess) Process.part act with
  | some signal => tellDeath signal
  | none => return ()

/-! ## Signals -/

/-- The signals that have come for the running process, in order; they are taken. -/
def takeSignals : Act (List Nat) := do
  let s ← get
  if s.world.sent.isEmpty then return []
  let mine (m : Sent) : Bool := m.process == s.process.identity && m.time ≤ s.world.clock
  let (taken, left) := s.world.sent.partition mine
  modifyWorld fun w => { w with sent := left }
  return (taken.mergeSort fun a b => a.time ≤ b.time).map (·.signal)

/-- Whether a signal ends a process that has traps. -/
def endsProcess (p : Process) (signal : Nat) : Bool :=
  !Signal.isHarmless signal && (Signal.isSure signal || !p.traps.any (·.1 == signal))

/-- Ends the running process by a signal; one that only stops it does so forever. -/
def die {α : Type} (signal : Nat) : Act α := do
  if Signal.isStopping signal then throw .overtime
  throw (.killed (← process).identity signal)

/-- Acts on the signals that have come; `eval` runs the text of a trap. -/
def answerSignals (eval : Octets → Act Unit) : Act Unit := do
  (← takeSignals).forM fun signal => do
    let p ← process
    if endsProcess p signal then die signal
    match p.traps.find? (·.1 == signal) with
    | some (_, action) =>
      if !action.isEmpty then
        let before ← status
        modifyProcess fun p => { p with saved := some before }
        restoring (fun p => { p with saved := none }) (eval action)
        setStatus before
    | none => return ()

end Retouch.Shell
