/-
  Programs that run other programs.

  Each is given a function that finds a program by its name.  A program either takes the place of the
  one that calls it, or is run as a process of its own.
-/
import Retouch.Shell.Jobs
import Retouch.Shell.Program
import Retouch.Shell.Utility.Numbers

namespace Retouch.Shell

/-! ## Processes -/

/-- Finds a program by its name, and gives what runs it with some arguments. -/
abbrev Finder := Octets → List Octets → Act (Except StartFault (Act Unit))

/-- The process as a program that it becomes finds it: only what is exported is passed on, and what is
    ignored stays so. -/
def Process.fresh (p : Process) : Process :=
  { p with
    bindings := p.bindings.filter fun v => p.exported.contains v.1
    constant := [], functions := [], aliases := [], locals := [], options := [], hashed := []
    traps := p.traps.filter (·.2.isEmpty)
    status := 0, captured := 0, line := 1, command := [], saved := none, optionIndex := 1
    optionOffset := 0, final := true, tested := false, loops := 0 }

/-- Runs a program in a process of its own; gives the signal that has ended it, if one has. -/
def asChild (act : Act Unit) : Act (Option Nat) := do
  let number ← newProcess
  asProcess number Process.fresh act

/-- Writes what a utility has written.  Messages are there before the output, unless that is written
    at once. -/
def writeWork (w : Work) : Act Unit := do
  if w.direct then w.written.reverse.forM fun (message, t) => write (if message then 2 else 1) t
  else
    write 2 (w.pieces true).flatten
    write 1 (w.pieces false).flatten

/-- What a utility is called with in the running process. -/
def callHere (name : Octets) (args : List Octets) : Act Call := do
  let channel ← inputChannel
  let p ← process
  return {
    name, args, input := channel.content, endless := channel.endless, isFile := channel.isFile
    cwd := p.directory, environment := p.environment, umask := p.umask }

/-- Runs a utility in the running process, and gives what it gives. -/
def runUtility {α : Type} (run : RunCommand) (u : Utility α) (call : Call) : Act (Option α) := do
  let tree := (← get).world.tree
  let (result, w) := StateT.run (ReaderT.run (ExceptT.run u) call) { tree := tree }
  modifyWorld fun world => { world with tree := w.tree }
  match w.left with
  | some rest => setInput rest
  | none => pure ()
  writeWork w
  setStatus w.status
  if w.asleep > 0 then pause run w.asleep
  if w.stuck then pause run Utility.foreverMicros
  match ← writeFault? 1 with
  | some fault =>
    if !(w.pieces false).isEmpty then
      write 2 (call.name ++ ": write error: ".toList ++ fault.toList ++ ['\n'])
      setStatus 1
  | none =>
    if w.endless && !w.stuck then
      writeEndless 1
      die 13
  match result with
  | .ok a => return some a
  | .error _ => return none

/-! ## Variables -/

/-- The process with some variables that programs see, and no others. -/
def Process.withEnvironment (p : Process) (vars : List (Octets × Octets)) : Process :=
  { p with bindings := vars.reverse, exported := vars.map (·.1) }

/-- What the system says of a program that cannot be started, and the status after it. -/
def StartFault.spoken : StartFault → String × Nat
  | .missing => ("No such file or directory", 127)
  | .denied => ("Permission denied", 126)
  | .badFormat => ("Exec format error", 126)

/-- Becomes another program, or says that it cannot. -/
def becomeOr (find : Finder) (message : Octets → Octets) (name : Octets) (args : List Octets) :
    Act Unit := do
  match ← find name args with
  | .ok act => act
  | .error fault =>
    let (text, status) := fault.spoken
    write 2 (message name ++ ": ".toList ++ text.toList ++ ['\n'])
    setStatus status

/-- What `env` is asked for: the variables, the mark after each one that is shown, a directory, and
    the words of a command. -/
structure EnvironmentRequest where
  vars : List (Octets × Octets)
  mark : Char
  directory : Option Octets
  words : List Octets

/-- A list of variables with one set. -/
def setIn (vars : List (Octets × Octets)) (name value : Octets) : List (Octets × Octets) :=
  if vars.any (·.1 == name) then vars.map fun v => if v.1 == name then (name, value) else v
  else vars ++ [(name, value)]

/-- Reads the arguments of `env`. -/
def readEnvironment : Utility EnvironmentRequest := do
  let call ← read
  let g : Utility.Grammar :=
    { plain := "i0v", valued := "uCS", inFront := true, status := 125
      long := [("ignore-environment", 'i'), ("null", '0'), ("unset", 'u'), ("chdir", 'C'),
        ("split-string", 'S'), ("debug", 'v')] }
  let o ← Utility.optionsOf g call.args
  let split := ((o.value? 'S').getD []).splitOnP Text.isPadding
  let operands := split.filter (!·.isEmpty) ++ o.operands
  let dash := operands.head? = some ['-']
  let operands := if dash then operands.drop 1 else operands
  let kept := if o.has 'i' || dash then []
    else call.environment.filter fun v => !(o.values 'u').contains v.1
  let settings := operands.takeWhile (·.contains '=')
  let vars := settings.foldl
    (fun vars a =>
      let name := a.takeWhile (· != '=')
      setIn vars name (a.drop (name.length + 1)))
    kept
  return ⟨vars, if o.has '0' then '\x00' else '\n', o.value? 'C', operands.drop settings.length⟩

/-- Changes variables for a program, or shows them. -/
def environmentProgram (run : RunCommand) (find : Finder) (name : Octets) (args : List Octets) :
    Act Unit := do
  let call ← callHere name args
  match ← runUtility run readEnvironment call with
  | none => return ()
  | some s =>
    modifyProcess (·.withEnvironment s.vars)
    match s.directory with
    | some d =>
      let state ← get
      match state.world.tree.get call.cwd d, state.world.tree.locate call.cwd d with
      | .ok (.directory _), .ok place =>
        modifyProcess fun p => { p with directory := place, route := place }
      | .error f, _ =>
        write 2 (name ++ ": cannot change directory to ".toList ++
          Utility.about (Utility.quote d) f ++ ['\n'])
        setStatus 125
        throw .exit
      | _, _ =>
        write 2 (name ++ ": cannot change directory to ".toList ++ Utility.quote d ++
          ": Not a directory\n".toList)
        setStatus 125
        throw .exit
    | none => pure ()
    match s.words with
    | [] => say (s.vars.flatMap fun v => v.1 ++ '=' :: v.2 ++ [s.mark])
    | w :: ws => becomeOr find (fun n => name ++ ": ".toList ++ Utility.quote n) w ws

/-! ## Time limits -/

/-- What `timeout` is asked for: the time in microseconds, the signal, whether the status of the
    program is kept, whether it is told, and the words of a command. -/
structure Limit where
  micros : Nat
  signal : Nat
  keepsStatus : Bool
  tells : Bool
  words : List Octets

/-- Reads the arguments of `timeout`. -/
def readLimit : Utility Limit := do
  let g : Utility.Grammar :=
    { plain := "fpv", valued := "ks", inFront := true, status := 125
      long := [("foreground", 'f'), ("preserve-status", 'p'), ("verbose", 'v'), ("kill-after", 'k'),
        ("signal", 's')] }
  let o ← Utility.options g
  let signal ← match o.value? 's' with
    | none => pure 15
    | some t =>
      match Signal.number? t with
      | some n => pure n
      | none => Utility.misuse (Utility.quote t ++ ": invalid signal".toList) 125
  match o.operands with
  | interval :: w :: ws =>
    match Utility.interval? interval with
    | none => Utility.misuse ("invalid time interval ".toList ++ Utility.quote interval) 125
    | some n => return ⟨n.getD 0, signal, o.has 'p', o.has 'v', w :: ws⟩
  | _ =>
    let name := (← read).name
    Utility.warn ("Try '".toList ++ name ++ " --help' for more information.\n".toList)
    Utility.setStatus 125
    throw ()

/-- Runs a program that is ended after some time. -/
def limitedProgram (run : RunCommand) (find : Finder) (name : Octets) (args : List Octets) :
    Act Unit := do
  match ← runUtility run readLimit (← callHere name args) with
  | none => return ()
  | some limit =>
    let word := limit.words.headD []
    match ← find word (limit.words.drop 1) with
    | .error fault =>
      let (text, status) := fault.spoken
      write 2 (name ++ ": failed to run command ".toList ++ Utility.quote word ++ ": ".toList ++
        text.toList ++ ['\n'])
      setStatus status
    | .ok act =>
      let before := (← get).world
      let last := if limit.micros = 0 then before.deadline else before.clock + limit.micros
      modifyWorld fun w => { w with deadline := min last w.deadline }
      let restore : Act Unit := modifyWorld fun w => { w with deadline := before.deadline }
      let died ← tryCatch (asChild act) fun e => do
        restore
        if e ≠ .overtime || before.deadline ≤ last then throw e
        modifyWorld fun w => { w.setClock last with alive := before.alive }
        if limit.tells then
          write 2 (name ++ ": sending signal ".toList ++ (Signal.name limit.signal).toList ++
            " to command ".toList ++ Utility.quote word ++ ['\n'])
        if limit.signal = 9 then die 9
        setStatus (if limit.keepsStatus then 128 + limit.signal else 124)
        return none
      restore
      match died with
      | some signal => die signal
      | none => return ()

/-! ## Programs that only call another one -/

/-- Runs a program as it is, after options that make no difference. -/
def plainWrapper (g : Utility.Grammar) (message : Octets → Octets) (alone : Utility Unit)
    (run : RunCommand) (find : Finder) (name : Octets) (args : List Octets) : Act Unit := do
  let u : Utility (List Octets) := do
    let o ← Utility.options g
    if o.operands.isEmpty then
      alone
      throw ()
    return o.operands
  match ← runUtility run u (← callHere name args) with
  | some (w :: ws) => becomeOr find (fun n => name ++ ": ".toList ++ message n) w ws
  | _ => return ()

/-- Runs a program that a lost terminal does not end. -/
def nohup : RunCommand → Finder → Octets → List Octets → Act Unit :=
  plainWrapper { inFront := true, status := 125 }
    (fun n => "failed to run command ".toList ++ Utility.quote n)
    (Utility.misuse "missing operand".toList 125)

/-- Runs a program that gives way to others. -/
def nice : RunCommand → Finder → Octets → List Octets → Act Unit :=
  plainWrapper { valued := "n", long := [("adjustment", 'n')], inFront := true, status := 125 }
    Utility.quote (Utility.sayLine ['0'])

/-- Runs a program in a session of its own. -/
def setsid : RunCommand → Finder → Octets → List Octets → Act Unit :=
  plainWrapper { plain := "cfw", inFront := true }
    (fun n => "failed to execute ".toList ++ n)
    (Utility.refuse "no command specified".toList 1)

/-- Runs a program with other buffers. -/
def stdbuf : RunCommand → Finder → Octets → List Octets → Act Unit :=
  plainWrapper { valued := "ioe", long := [("input", 'i'), ("output", 'o'), ("error", 'e')]
                 inFront := true, status := 125 }
    (fun n => "failed to run command ".toList ++ Utility.quote n)
    (Utility.misuse "missing operand".toList 125)

end Retouch.Shell
