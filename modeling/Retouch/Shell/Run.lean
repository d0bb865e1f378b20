/-
  Running of scripts and programs.

  `run` carries a command out in the running process.  Its first argument bounds how deep commands
  and functions are nested; time bounds the loops.  A program is a utility, the shell itself, a
  program that runs others, or a file that can be executed and names the program that interprets it.
-/
import Retouch.Shell.Builtin
import Retouch.Shell.Gathering
import Retouch.Shell.Redirect
import Retouch.Shell.Utility.Catalog

namespace Retouch.Shell

/-! ## Loops and functions -/

/-- Ends the process after a failure that nobody looks at, if it is so set. -/
def checkFailure : Act Unit := do
  let p ← process
  if p.status ≠ 0 && !p.tested && p.options.contains 'e' then throw .exit

/-- Runs a body of a loop; tells whether the loop goes on. -/
def loopBody (body : Act Unit) : Act Bool := do
  let before := (← process).loops
  modifyProcess fun p => { p with loops := before + 1 }
  let act : Act Bool := tryCatch (do body; return true) fun e =>
    match e with
    | .break_ n => if n ≤ 1 then return false else throw (.break_ (n - 1))
    | .continue_ n => if n ≤ 1 then return true else throw (.continue_ (n - 1))
    | e => throw e
  restoring (fun p => { p with loops := before }) act

/-- The time left. -/
def timeLeft : Act Nat := return (← get).world.deadline - (← get).world.clock

/-- A loop on a condition. -/
def runLoop (run : RunCommand) (whileTrue : Bool) (condition body : Act Unit) : Act Unit := do
  let step (last : Nat) : Act (Nat × Bool) := do
    pass roundTime
    catchUp run (← clock)
    if !(← loopBody (tested condition)) then return (0, true)
    else if ((← status) == 0) == whileTrue then
      let goesOn ← loopBody body
      return (← status, !goesOn)
    else return (last, true)
  setStatus (← iterate step ((← timeLeft) + 2) 0)

/-- A loop over words. -/
def runEach (name : Octets) (body : Act Unit) : List Octets → Act Unit
  | [] => return ()
  | word :: words => do
    assign name word
    if ← loopBody body then runEach name body words

/-- How deep functions may be nested. -/
def functionDepth : Nat := 1000

/-- The process with its own variables of a function put back. -/
def Process.dropLocals (p : Process) : Process :=
  let p := (p.locals.headD []).foldl
    (fun p (n, v) => match v with | some v => p.assign n v | none => p.forget n) p
  { p with locals := p.locals.drop 1 }

/-- Runs a function. -/
def runFunction (body : Act Unit) (args : List Octets) : Act Unit := do
  let before ← process
  if functionDepth ≤ before.locals.length then
    abort "Maximum function recursion depth (1000) reached".toList
  modifyProcess fun p =>
    { p with parameters := args, locals := [] :: p.locals, optionIndex := 1, optionOffset := 0, loops := 0 }
  let restore (p : Process) : Process :=
    { p.dropLocals with
      parameters := before.parameters, optionIndex := before.optionIndex
      optionOffset := before.optionOffset, loops := before.loops }
  restoring restore (tryCatch body fun e => if e = .return_ then return () else throw e)

/-! ## Names -/

/-- What the shell says of a program that cannot be started, and the status after it. -/
def startMessage (name : Octets) : StartFault → Octets × Nat
  | .missing => (name ++ ": not found".toList, 127)
  | .denied => (name ++ ": Permission denied".toList, 126)
  | .badFormat => (name ++ ": Exec format error".toList, 126)

/-- The path of the program with a name. -/
def programPath (name : Octets) : Act (Except StartFault Octets) := do
  let s ← get
  let p := s.process
  return findProgram s.world.tree p.directory ((p.lookup? "PATH".toList).getD []) name

/-- The path of a program that can be executed. -/
def executablePath? (name : Octets) : Act (Option Octets) := do
  match ← programPath name with
  | .error _ => return none
  | .ok path =>
    let s ← get
    match s.world.tree.get s.process.directory path with
    | .ok (.file _ info) => return if info.mode &&& 0o111 != 0 then some path else none
    | _ => return none

/-- Keeps in mind where a program is. -/
def remember (name path : Octets) : Act Unit := do
  if !name.contains '/' && !(← process).hashed.any (·.1 == name) then
    modifyProcess fun p => { p with hashed := (name, path) :: p.hashed }

/-- Tells what a name stands for. -/
def describe (verbose : Bool) (name : Octets) : Act Unit := do
  let p ← process
  let tell (short long : Octets) : Act Unit := say ((if verbose then name ++ long else short) ++ ['\n'])
  if reserved.any (·.toList == name) then tell name " is a shell keyword".toList
  else
    match p.aliases.find? (·.1 == name) with
    | some (_, text) =>
      tell ("alias ".toList ++ name ++ '=' :: Builtin.quoted text) (" is an alias for ".toList ++ text)
    | none =>
      if p.functions.any (·.1 == name) then tell name " is a shell function".toList
      else if Builtin.special.any (·.toList == name) then tell name " is a special shell builtin".toList
      else if Builtin.names.any (·.toList == name) then tell name " is a shell builtin".toList
      else
        match ← executablePath? name with
        | some path =>
          let tracked := p.hashed.any (·.1 == name)
          tell path ((if tracked then " is a tracked alias for " else " is ").toList ++ path)
          remember name path
        | none =>
          if verbose then say (name ++ ": not found\n".toList)
          setStatus 127

/-- Looks for programs, or shows where those that have been looked for are. -/
def hashNames : Builtin.Routine := fun args => do
  let (letters, args) ← Builtin.options "rv" args
  setStatus 0
  if letters.contains 'r' then modifyProcess fun p => { p with hashed := [] }
  else if args.isEmpty then (← process).hashed.reverse.forM fun h => say (h.2 ++ ['\n'])
  else
    args.forM fun name => do
      if !Builtin.names.any (·.toList == name) then
        match ← executablePath? name with
        | some path => remember name path
        | none =>
          report (name ++ ": not found".toList)
          setStatus 1

/-! ## Shells -/

/-- Variables that a shell has from the start. -/
def Process.asShell (p : Process) : Process :=
  let defaults :=
    [("IFS", " \t\n"), ("OPTIND", "1"), ("PS1", "# "), ("PS2", "> "), ("PS4", "+ ")].map
      fun v => (v.1.toList, v.2.toList)
  let p := (defaults ++ [("PPID".toList, Text.ofNat p.parent)]).foldl (fun p v => p.assign v.1 v.2) p
  let p : Process := { p with number := p.identity, status := 0 }
  if p.lookup? "PWD".toList = some (Place.path p.route) then p
  else
    let p : Process := { p with route := p.directory }
    (p.assign "PWD".toList (Place.path p.route)).passOn "PWD".toList

/-- How commands call back into the evaluation. -/
structure Runner where
  command : RunCommand

namespace Runner

/-- Runs the commands of a script one after another.  The last one of the whole text of a process may
    take its place. -/
def script (r : Runner) (isWhole : Bool) (text : Octets) : Act Unit := do
  let step (cursor : Cursor) : Act (Cursor × Bool) := do
    let p ← process
    match { cursor with aliases := p.aliases }.next with
    | .error fault =>
      modifyProcess fun p => { p with line := fault.line }
      abort fault.message
    | .ok none => return (cursor, true)
    | .ok (some (c, after)) =>
      if p.options.contains 'v' then
        write 2 ((cursor.rest.take (cursor.rest.length - after.rest.length)).dropWhile (· == '\n') ++ ['\n'])
      if !p.options.contains 'n' then
        modifyProcess fun p => { p with final := isWhole && after.rest.isEmpty }
        r.command c
      return (after, false)
  discard (iterate step (text.length + 2) { rest := text })

/-- Runs what a process is for, and then what is to be done at its end. -/
def ending (r : Runner) (act : Act Unit) : Act Unit := do
  let calmly (act : Act Unit) (done : Act Unit) : Act Unit :=
    tryCatch (do act; done) fun e =>
      match e with
      | .exit | .fault | .return_ | .break_ _ | .continue_ _ => return ()
      | e => throw e
  calmly act (return ())
  match (← process).traps.find? (·.1 == 0) with
  | some (_, action) =>
    let before ← status
    modifyProcess fun p =>
      { p with traps := p.traps.filter (·.1 != 0), saved := some before, final := false }
    calmly (r.script false action) (setStatus before)
  | none => return ()

/-- Runs the command of a job. -/
def job (r : Runner) : RunCommand := fun c => r.ending (r.command c)

/-- Runs a script that is the whole of a process. -/
def whole (r : Runner) (isWhole : Bool) (name : Octets) (parameters : List Octets) (text : Octets) :
    Act Unit := do
  modifyProcess fun p => { p with name, parameters, line := 1, command := [] }
  r.ending (r.script isWhole text)

/-- The script in a file; a directory counts as an empty one. -/
def scriptAt (path : Octets) : Act (Except FileFault Octets) := do
  let s ← get
  match s.world.tree.read s.process.directory path with
  | .error .isDirectory => return .ok []
  | r => return r

/-- The options in front of the arguments of a shell, and the rest; `fuel` bounds their number. -/
def shellOptions : (fuel : Nat) → List Octets → Act (List Char × List Octets)
  | 0, args => return ([], args)
  | _, [] => return ([], [])
  | fuel + 1, a :: args => do
    match a with
    | ['-', '-'] | ['-'] => return ([], args)
    | sign :: c :: letters =>
      if sign ≠ '-' && sign ≠ '+' then return ([], a :: args)
      let mut args := args
      let mut found : List Char := []
      for l in c :: letters do
        if l = 'o' then
          match args with
          | [] => Builtin.showOptions (sign == '-')
          | n :: rest =>
            Builtin.setNamedOption (sign == '-') n
            args := rest
        else if l = 'c' || l = 's' then found := l :: found
        else if optionLetters.contains l then modifyProcess (Builtin.setOption · (sign == '-') l)
        else abort ("Illegal option ".toList ++ [sign, l])
      let (others, rest) ← shellOptions fuel args
      return (found ++ others, rest)
    | _ => return ([], a :: args)

/-- Starts a shell by its arguments. -/
def shell (r : Runner) (name : Octets) (args : List Octets) : Act Unit := do
  modifyProcess fun p => { p.asShell with name, line := 0, command := [] }
  let (letters, args) ← shellOptions (args.length + 1) args
  if letters.contains 'c' then
    match args with
    | [] => abort "-c requires an argument".toList
    | text :: rest => r.whole true (rest.headD name) (rest.drop 1) text
  else if args.isEmpty || letters.contains 's' then
    modifyProcess (Builtin.setOption · true 's')
    let text ← peekInput
    setInput []
    r.whole false name args text
  else
    let path := args.headD []
    match ← scriptAt path with
    | .ok text => r.whole false path (args.drop 1) text
    | .error f => abort (unopenedMessage false path f)

/-! ## Programs -/

/-- What runs when a program is called by its name, and its path.  A file that names no interpreter is
    a script of the shell. -/
def findWith (r : Runner) (start : Started → Act Unit) (name : Octets) (args : List Octets) :
    Act (Except StartFault (Octets × Act Unit)) := do
  match ← programPath name with
  | .error fault => return .error fault
  | .ok path =>
    let s ← get
    match resolve s.world.tree s.process.directory interpreterDepth path args with
    | .ok started =>
      let called := if started.name = path then { started with name := name } else started
      return .ok (path, start called)
    | .error .badFormat =>
      match s.world.tree.read s.process.directory path with
      | .ok text =>
        let act : Act Unit := do
          modifyProcess Process.asShell
          r.whole false path args text
        return .ok (path, act)
      | .error _ => return .error .missing
    | .error fault => return .error fault

/-- Programs that run others, by name. -/
def wrappers : List (String × (RunCommand → Finder → Octets → List Octets → Act Unit)) :=
  [("env", environmentProgram), ("nice", nice), ("nohup", nohup), ("setsid", setsid),
    ("stdbuf", stdbuf), ("timeout", limitedProgram), ("xargs", gatheringProgram)]

/-- Names of the shell. -/
def shellNames : List String := ["sh", "dash", "bash"]

/-- The names of the programs of the system. -/
def systemPrograms : List String :=
  shellNames ++ wrappers.map (·.1) ++ Utility.catalog.map (·.1)

/-- Runs a program in the running process; `depth` bounds the programs that run another one. -/
def start (r : Runner) : (depth : Nat) → Started → Act Unit
  | 0, _ => die 11
  | depth + 1, ⟨program, name, args⟩ => do
    if shellNames.any (·.toList == program) then r.shell name args
    else
      match wrappers.find? (·.1.toList == program), Utility.named? program with
      | some (_, w), _ =>
        let find : Finder := fun name args => do
          return (← r.findWith (r.start depth) name args).map (·.2)
        w r.job find name args
      | none, some u => discard (runUtility r.job u (← callHere name args))
      | none, none => setStatus 127

/-- How many programs may run one another. -/
def programDepth : Nat := 30

/-- What runs when a program is called by its name, and its path. -/
def find (r : Runner) (name : Octets) (args : List Octets) :
    Act (Except StartFault (Octets × Act Unit)) :=
  r.findWith (r.start programDepth) name args

/-- Runs a program by its name; it takes the place of a process that ends with it. -/
def program (r : Runner) (isFinal : Bool) (name : Octets) (args : List Octets) : Act Unit := do
  pass startTime
  if name.isEmpty then
    report ": Permission denied".toList
    setStatus 127
  else
    match ← r.find name args with
    | .ok (path, act) =>
      remember name path
      if isFinal && (← process).traps.isEmpty then
        modifyProcess Process.fresh
        act
        throw .exit
      else
        match ← asChild act with
        | some signal => tellDeath signal
        | none => return ()
    | .error fault =>
      let (message, status) := startMessage name fault
      report message
      setStatus status

/-- Lets a program take the place of the shell. -/
def become (r : Runner) (name : Octets) (args : List Octets) : Act Unit := do
  pass startTime
  match ← r.find name args with
  | .ok (_, act) =>
    modifyProcess Process.fresh
    act
  | .error fault =>
    let (message, status) := startMessage name fault
    report message
    setStatus status
  throw .exit

/-! ## Commands of the shell -/

/-- Runs the text of a file in the running shell. -/
def source (r : Runner) : Builtin.Routine := fun args => do
  setStatus 0
  match args with
  | [] => return ()
  | name :: _ =>
    let s ← get
    let readable (path : Octets) : Option Octets := (s.world.tree.read s.process.directory path).toOption
    let path? : Option Octets :=
      if name.contains '/' then some name
      else
        (searchPaths ((s.process.lookup? "PATH".toList).getD []) name).find? fun p => (readable p).isSome
    match path? with
    | none => abort (name ++ ": not found".toList)
    | some path =>
      match ← scriptAt path with
      | .ok text =>
        modifyProcess fun p => { p with command := path }
        tryCatch (r.script false text) fun e => if e = .return_ then return () else throw e
      | .error f => abort (unopenedMessage false path f)

/-- A command of the shell that is not a function. -/
def routine? (r : Runner) (name : Octets) : Option Builtin.Routine :=
  match String.ofList name with
  | "exec" => some fun args => do
    match args with
    | [] => setStatus 0
    | name :: rest => r.become name rest
  | "." => some r.source
  | "type" => some fun args => do
    setStatus 0
    args.forM (describe true)
  | "hash" => some hashNames
  | _ => ((Builtin.catalog ⟨r.script false, r.job⟩).find? (·.1.toList == name)).map (·.2)

/-- Runs a command of the shell, or a program.  With `soft`, a fault never ends the shell. -/
def known (r : Runner) (soft isFinal : Bool) (name : Octets) (args : List Octets) : Act Unit := do
  match r.routine? name with
  | some b =>
    pass commandTime
    let before := (← process).command
    let ends := !soft && Builtin.special.any (·.toList == name)
    modifyProcess fun p => { p with command := name }
    restoring (fun p => { p with command := before }) <|
      tryCatch (b args) fun e => if e = .fault && !ends then return () else throw e
  | none => r.program isFinal name args

/-- Runs a command that is named after `command`. -/
def plainly (r : Runner) (isFinal : Bool) (args : List Octets) : Act Unit := do
  let before := (← process).command
  modifyProcess fun p => { p with command := "command".toList }
  let (letters, args) ← restoring (fun p => { p with command := before }) (Builtin.options "pvV" args)
  setStatus 0
  match args with
  | [] => return ()
  | name :: rest =>
    if letters.contains 'v' then describe false name
    else if letters.contains 'V' then describe true name
    else if name = "command".toList then
      -- One more of them makes no difference.
      match rest with
      | [] => return ()
      | name :: rest => r.known true isFinal name rest
    else r.known true isFinal name rest

/-- Runs a simple command whose words are expanded. -/
def simple (r : Runner) (isFinal : Bool) (name : Octets) (args : List Octets) : Act Unit := do
  match (← process).functions.find? (·.1 == name) with
  | some (_, body) =>
    pass commandTime
    runFunction (r.command body) args
  | none =>
    if name = "command".toList then
      pass commandTime
      tryCatch (r.plainly isFinal args) fun e => if e = .fault then return () else throw e
    else r.known false isFinal name args

/-! ## Simple commands -/

/-- Runs commands and gives what they write. -/
def capture (r : Runner) : Capture := fun commands => do
  let before ← status
  let channel ← newChannel []
  apart do
    modifyProcess (·.connect 1 (.channel channel))
    if commands.isEmpty then setStatus 0
    r.ending (r.command (.sequence commands))
  finishHolders r.job channel
  let c ← channelAt channel
  if c.endless then throw .overtime
  setChannel channel []
  let captured ← status
  modifyProcess fun p => { p with captured, status := before }
  return c.content

/-- Whether a word has the form of an assignment. -/
def isAssignment (w : Word) : Bool :=
  match w with
  | .text t false :: _ => t.contains '=' && isName (t.takeWhile (· != '='))
  | _ => false

/-- The words of a command, expanded.  Some commands take assignments as arguments. -/
def expandCommand (r : Runner) : List Word → Act (List Octets)
  | [] => return []
  | w :: ws => do
    match ← expandWord r.capture w with
    | [] => r.expandCommand ws
    | first :: more =>
      let declares := Builtin.declaring.any (·.toList == first)
      let rest ← ws.mapM fun w =>
        if declares && isAssignment w then do return [← expandAssigned r.capture w]
        else expandWord r.capture w
      return first :: more ++ rest.flatten

/-- Shows a command before it runs, if that is wanted. -/
def trace (target : Option Target) (words : List Octets) : Act Unit := do
  let p ← process
  if p.options.contains 'x' then
    let lead := (p.lookup? "PS4".toList).getD []
    match target with
    | some t => modifyWorld (·.write t (lead ++ List.intercalate [' '] words ++ ['\n']))
    | none => return ()

/-- Gives variables their values; gives the assignments with them. -/
def assignAll (r : Runner) (exporting : Bool) (assignments : List (Octets × Word)) : Act (List Octets) :=
  assignments.mapM fun (n, w) => do
    let v ← expandAssigned r.capture w
    assign n v
    if exporting then modifyProcess (·.passOn n)
    return n ++ '=' :: v

/-- The process with some variables as they were before. -/
def putBack (names : List Octets) (before after : Process) : Process :=
  let after := names.foldl
    (fun p n =>
      match before.lookup? n with
      | some v => p.assign n v
      | none => p.forget n)
    after
  { after with exported := before.exported.filter names.contains ++ after.exported.filter fun n => !names.contains n }

/-- Runs a simple command. -/
def simpleCommand (r : Runner) (line : Nat) (assignments : List (Octets × Word)) (words : List Word)
    (redirections : List Redirection) : Act Unit := do
  let isFinal := (← process).final
  modifyProcess fun p => { p with line := line, captured := 0, final := false }
  let errors ← target? 2
  match ← r.expandCommand words with
  | [] =>
    let went ← redirected r.capture redirections do
      trace errors (← r.assignAll false assignments)
    if went then setStatus (← process).captured
  | name :: args =>
    let isSpecial := Builtin.special.any (·.toList == name)
    if name = "exec".toList && args.isEmpty then
      trace errors [name]
      if ← redirectAll r.capture redirections then
        discard (r.assignAll false assignments)
        setStatus 0
      else throw .exit
    else if isSpecial then
      let went ← redirected r.capture redirections do
        let shown ← r.assignAll false assignments
        trace errors (shown ++ name :: args)
        r.simple isFinal name args
      if !went then throw .exit
    else
      let before ← process
      let act : Act Unit := do
        let shown ← r.assignAll true assignments
        trace errors (shown ++ name :: args)
        r.simple isFinal name args
      let act := if assignments.isEmpty then act
        else restoring (putBack (assignments.map (·.1)) before) act
      discard (redirected r.capture redirections act)
  answerSignals (r.script false)
  checkFailure

/-! ## Compound commands -/

/-- Runs a part of a command, which may be the last one of the process. -/
def inner (r : Runner) (isFinal : Bool) (c : Command) : Act Unit := do
  modifyProcess fun p => { p with final := isFinal }
  r.command c

/-- How many pieces there are of an output that goes on until the time is over. -/
def endlessPieces : Nat := 20

/-- Runs something that writes to a channel.  If it goes on until the time is over, what it has written
    counts as endless. -/
def writing (channel : Nat) (act : Act Unit) : Act Unit := do
  let before := (← get).world
  let place ← process
  tryCatch act fun e => do
    if e ≠ .overtime then throw e
    let c ← channelAt channel
    if c.written.length < endlessPieces && c.content.length < Utility.endlessSize then throw e
    modifyProcess fun _ => place
    modifyWorld fun w =>
      { w.setClock before.clock with
        alive := before.alive
        channels := w.channels.modify channel fun c => { c with endless := true } }

/-- Runs commands at the same time, each in a process of its own; the output of each is the input of
    the next one. -/
def pipeline (r : Runner) (started finished : Nat) : List Command → Act Unit
  | [] => setClock finished
  | c :: rest => do
    setClock started
    if rest.isEmpty then
      apart (r.ending (r.command c))
      r.pipeline started (max finished (← clock)) rest
    else
      let channel ← newChannel []
      writing channel <| apart do
        modifyProcess (·.connect 1 (.channel channel))
        r.ending (r.command c)
      finishHolders r.job channel
      let time ← clock
      let before := (← process).descriptors
      modifyProcess (·.connect 0 (.channel channel))
      restoring (fun p => { p with descriptors := before }) (r.pipeline started (max finished time) rest)

/-- Runs the first clause whose condition holds. -/
def branch (r : Runner) (isFinal : Bool) (otherwise : Option Command) : List (Command × Command) → Act Unit
  | [] =>
    match otherwise with
    | some c => r.inner isFinal c
    | none => setStatus 0
  | (condition, body) :: clauses => do
    tested (r.inner false condition)
    if (← status) = 0 then r.inner isFinal body else branch r isFinal otherwise clauses

/-- Runs the first clause with a pattern that describes a text. -/
def choice (r : Runner) (isFinal : Bool) (text : Octets) : List (List Word × Command) → Act Unit
  | [] => setStatus 0
  | (patterns, body) :: clauses => do
    if ← accepts patterns then
      setStatus 0
      r.inner isFinal body
    else choice r isFinal text clauses
where
  /-- Whether one of some patterns describes the text. -/
  accepts : List Word → Act Bool
    | [] => return false
    | w :: ws => do
      let glob ← expandPattern r.capture w
      if glob.accepts text then return true else accepts ws

/-- Runs commands one after another. -/
def sequence (r : Runner) (isFinal : Bool) : List Command → Act Unit
  | [] => return ()
  | [c] => r.inner isFinal c
  | c :: cs => do
    r.inner false c
    sequence r isFinal cs

/-- Goes to a line of the script. -/
def setLine (line : Nat) : Act Unit := modifyProcess fun p => { p with line := line }

/-- Runs a command. -/
def apply (r : Runner) (c : Command) : Act Unit := do
  let isFinal := (← process).final
  match c with
  | .simple line assignments words redirections =>
    r.simpleCommand line assignments words redirections
  | .pipeline commands =>
    let started ← clock
    r.pipeline started started commands
    answerSignals (r.script false)
    checkFailure
  | .negation c =>
    tested (r.inner false c)
    setStatus (if (← status) = 0 then 1 else 0)
  | .both a b =>
    tested (r.inner false a)
    if (← status) = 0 then r.inner isFinal b
  | .either a b =>
    tested (r.inner false a)
    if (← status) ≠ 0 then r.inner isFinal b
  | .background c => startJob c
  | .sequence commands => r.sequence isFinal commands
  | .branch clauses otherwise => r.branch isFinal otherwise clauses
  | .loop whileTrue condition body =>
    runLoop r.job whileTrue (r.inner false condition) (r.inner false body)
  | .each line name words body =>
    setLine line
    let words ← match words with
      | some ws => expandWords r.capture ws
      | none => pure (← process).parameters
    setStatus 0
    runEach name (r.inner false body) words
  | .choice line word clauses =>
    setLine line
    let text ← expandText r.capture word
    r.choice isFinal text clauses
  | .group line body redirections =>
    if redirections.isEmpty then r.inner isFinal body
    else
      setLine line
      discard (redirected r.capture redirections (r.inner isFinal body))
  | .subshell line body redirections =>
    if !redirections.isEmpty then setLine line
    discard (redirected r.capture redirections (apart (r.ending (r.command body))))
    answerSignals (r.script false)
    checkFailure
  | .define name body =>
    modifyProcess fun p =>
      { p with functions := (name, body) :: p.functions.filter (·.1 != name) }
    setStatus 0

end Runner

/-- Runs a command; `depth` bounds the nesting.  A script that goes deeper is ended as one that has
    no memory left. -/
def run : (depth : Nat) → Command → Act Unit
  | 0, _ => die 11
  | depth + 1, c => Runner.apply ⟨run depth⟩ c

end Retouch.Shell
