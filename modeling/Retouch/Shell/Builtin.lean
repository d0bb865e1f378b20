/-
  Commands that the shell carries out itself.

  Those that run other commands are given functions for that.
-/
import Retouch.Shell.Condition
import Retouch.Shell.Expansion
import Retouch.Shell.Format
import Retouch.Shell.Jobs
import Retouch.Shell.Utility.Modes

namespace Retouch.Shell.Builtin

/-- A command of the shell, as a function of its arguments. -/
abbrev Routine := List Octets → Act Unit

/-- How commands of the shell run others: the text of a script, or a command. -/
structure Hooks where
  eval : Octets → Act Unit
  run : RunCommand

/-- Commands whose faults end the shell, and whose assignments stay. -/
def special : List String :=
  [":", ".", "eval", "exec", "exit", "export", "local", "readonly", "return", "set", "shift", "times",
    "trap", "unset", "break", "continue"]

/-- Commands that take assignments as arguments. -/
def declaring : List String := ["export", "readonly", "local"]

/-- The number that an argument of a command stands for. -/
def number (t : Octets) : Act Nat :=
  match Text.natBelow? (Nat.pow 2 31) t with
  | some n => return n
  | none => abort ("Illegal number: ".toList ++ t)

/-- The letters of options in front of arguments, with their values, and the arguments left; `fuel`
    bounds their number.  Letters in `valued` take a value. -/
def optionsWith (known valued : String) : (fuel : Nat) → List Octets → Act (List (Char × Octets) × List Octets)
  | 0, args => return ([], args)
  | _, [] => return ([], [])
  | fuel + 1, a :: args => do
    match a with
    | ['-', '-'] => return ([], args)
    | '-' :: c :: letters =>
      let (here, args) ← cluster args (c :: letters)
      let (others, rest) ← optionsWith known valued fuel args
      return (here ++ others, rest)
    | _ => return ([], a :: args)
where
  /-- Goes over the letters of an argument. -/
  cluster (args : List Octets) : Octets → Act (List (Char × Octets) × List Octets)
    | [] => return ([], args)
    | c :: t => do
      if valued.toList.contains c then
        match t, args with
        | [], [] => abort ("No arg for -".toList ++ c :: " option".toList)
        | [], v :: rest => return ([(c, v)], rest)
        | v, rest => return ([(c, v)], rest)
      else if known.toList.contains c then
        let (flags, rest) ← cluster args t
        return ((c, []) :: flags, rest)
      else abort ("Illegal option -".toList ++ [c])

/-- The letters of options in front of arguments, and the arguments left. -/
def options (known : String) (args : List Octets) : Act (List Char × List Octets) := do
  let (flags, rest) ← optionsWith known "" (args.length + 1) args
  return (flags.map (·.1), rest)

/-! ## Output and conditions -/

/-- Ends with a status. -/
def always (n : Nat) : Routine := fun _ => setStatus n

/-- Writes to the output, if that is possible. -/
def tellOut (t : Octets) : Act Unit := do
  match ← writeFault? 1 with
  | none => say t
  | some _ =>
    if !t.isEmpty then
      report ((← process).command ++ ": I/O error".toList)
      setStatus 1

/-- Writes its arguments. -/
def echo : Routine := fun args => do
  setStatus 0
  tellOut (Format.echo args)

/-- Writes its arguments by a format. -/
def printf : Routine := fun args => do
  let (_, args) ← options "" args
  match args with
  | [] => abort "usage: printf format [arg ...]".toList
  | format :: rest =>
    let p := Format.printf .shell format rest
    p.faults.forM report
    setStatus p.status
    tellOut p.output

/-- Looks at a condition. -/
def test : Routine := fun args => do
  let s ← get
  let run (args : List Octets) : Act Unit :=
    match Condition.eval ⟨s.world.tree, s.process.directory⟩ args with
    | .ok b => setStatus (if b then 0 else 1)
    | .error m => abort m
  if s.process.command = ['['] then
    if args.getLast? = some [']'] then run args.dropLast else abort "missing ]".toList
  else run args

/-! ## Directories -/

/-- A route with names added; two dots take one away. -/
def extendRoute (route : Place) (path : Octets) : Place :=
  (Path.names path).foldl Path.step (if Path.isAbsolute path then [] else route)

/-- Goes to the directory at a path; tells whether that is possible. -/
def goTo (physical : Bool) (path : Octets) : Act Bool := do
  let s ← get
  let p := s.process
  let route := extendRoute p.route path
  let target := if physical then path else Place.path route
  match s.world.tree.get p.directory target, s.world.tree.locate p.directory target with
  | .ok (.directory _), .ok place =>
    let route := if physical then place else route
    let twoSlashes := path.take 2 = ['/', '/'] && path[2]? ≠ some '/' && !physical
    let shown := if twoSlashes && !route.isEmpty then '/' :: Place.path route else Place.path route
    let old := (p.lookup? "PWD".toList).getD (Place.path p.route)
    modifyProcess fun p =>
      ({ p with directory := place, route := route }.assign "OLDPWD".toList old).assign "PWD".toList shown
    return true
  | _, _ => return false

/-- Goes to a directory. -/
def cd : Routine := fun args => do
  let (letters, args) ← options "LP" args
  let physical := letters.getLast? = some 'P'
  let p ← process
  let given := args.headD ((p.lookup? "HOME".toList).getD [])
  let back := given = ['-']
  let path := if back then (p.lookup? "OLDPWD".toList).getD (Place.path p.route) else given
  setStatus 0
  if path.isEmpty then return ()
  let direct := Path.isAbsolute path || path = ['.'] || path = ['.', '.'] ||
    "./".toList.isPrefixOf path || "../".toList.isPrefixOf path
  let search := if direct then [[]] else ((p.lookup? "CDPATH".toList).getD []).splitOnP (· == ':')
  let step (found : Option Bool) (dir : Octets) : Act (Option Bool) := do
    match found with
    | some b => return some b
    | none =>
      let full := if dir.isEmpty then path else Path.join dir path
      if ← goTo physical full then return some (!dir.isEmpty) else return none
  match ← search.foldlM step none with
  | some named =>
    if named || back then say (((← process).lookup? "PWD".toList).getD [] ++ ['\n'])
  | none =>
    if ← goTo physical path then
      if back then say (((← process).lookup? "PWD".toList).getD [] ++ ['\n'])
    else abort ("can't cd to ".toList ++ path)

/-- Writes the directory. -/
def pwd : Routine := fun args => do
  let (letters, _) ← options "LP" args
  let p ← process
  let shown := p.lookup? "PWD".toList
  let kept := shown.any fun t => Path.names t == p.route
  setStatus 0
  tellOut ((if letters.getLast? = some 'P' then Place.path p.directory
    else if kept then shown.getD [] else Place.path p.route) ++ ['\n'])

/-! ## Processes -/

/-- Ends the shell. -/
def exit : Routine := fun args => do
  match args, (← process).saved with
  | [], some n => setStatus n
  | [], none => pure ()
  | t :: _, _ => setStatus ((← number t) % 256)
  throw .exit

/-- The help for `kill`. -/
def killUsage : String :=
  "Usage: kill [-s sigspec | -signum | -sigspec] [pid | job]... or\nkill -l [exitstatus]"

/-- The signal that options name, and the processes. -/
def killArgs : List Octets → Act (Nat × List Octets)
  | [['-', 's']] => abort "No arg for -s option".toList
  | ['-', 's'] :: t :: rest =>
    match Signal.number? t with
    | some n => return (n, rest)
    | none => abort ("invalid signal number or name: ".toList ++ t)
  | ['-', '-'] :: rest => return (15, rest)
  | ('-' :: c :: t) :: rest =>
    match Signal.number? (c :: t) with
    | some n => return (n, if rest.head? = some ['-', '-'] then rest.drop 1 else rest)
    | none => abort ("Illegal option -".toList ++ [c])
  | rest => return (15, rest)

/-- The job that a text such as `%1` names. -/
def namedJob (t : Octets) : Act Job := do
  let jobs ← ownJobs
  let job? := match t with
    | ['%'] | ['%', '%'] | ['%', '+'] => jobs.getLast?
    | '%' :: d => (Text.natBelow? 10000 d).bind fun n => jobs[n - 1]?
    | _ => none
  match job? with
  | some j => return j
  | none => abort ("No such job: ".toList ++ t)

/-- Sends a signal to the process with a number; tells whether there is one. -/
def sendTo (signal number : Nat) : Act Bool := do
  let s ← get
  let job := s.world.jobs.any (·.number == number)
  if !job && number ≠ s.process.identity && !s.world.alive.contains number then return false
  if signal ≠ 0 then
    let m : Sent := ⟨s.world.clock, number, signal⟩
    modifyWorld fun w => { w with sent := w.sent ++ [m] }
    modifyJob number fun j => { j with forecast := none }
  return true

/-- Sends a signal. -/
def kill : Routine := fun args => do
  setStatus 0
  match args with
  | ['-', 'l'] :: rest =>
    match rest with
    | [] =>
      let names := (List.range (Signal.greatest + 1)).map fun n =>
        if n = 0 then ['0'] else (Signal.name n).toList
      say (names.map (· ++ ['\n'])).flatten
    | t :: _ => say ((Signal.name ((← number t) % 128)).toList ++ ['\n'])
  | _ =>
    let (signal, targets) ← killArgs args
    if targets.isEmpty then abort killUsage.toList
    targets.forM fun t => do
      let p ← process
      if t.head? = some '%' then discard (sendTo signal (← namedJob t).number)
      else
        let digits := t.dropWhile (· == '-')
        match Text.natBelow? (Nat.pow 2 31) digits with
        | none => abort ("Illegal number: ".toList ++ t)
        | some n =>
          if n = 0 || (t.head? = some '-' && n = p.number) then
            -- The whole group of processes is meant.
            (← get).world.jobs.forM fun j => discard (sendTo signal j.number)
            discard (sendTo signal p.number)
            if p.identity ≠ p.number then discard (sendTo signal p.identity)
          else if !(← sendTo signal n) then
            report "No such process\n".toList
            setStatus 1

/-- A text between single quotes, such that the shell reads it again. -/
def quoted (t : Octets) : Octets :=
  let runs := t.splitBy fun a b => (a == '\'') == (b == '\'')
  if t.isEmpty then "''".toList
  else
    runs.flatMap fun run =>
      if run.head? = some '\'' then '"' :: run ++ ['"'] else '\'' :: run ++ ['\'']

/-- Sets what is done on signals and at the end. -/
def trap : Routine := fun args => do
  let (_, args) ← options "" args
  setStatus 0
  let put (signals : List Octets) (action : Option Octets) : Act Unit :=
    signals.forM fun t => do
      match Signal.number? t with
      | none =>
        write 2 ("trap: ".toList ++ t ++ ": bad trap\n".toList)
        setStatus 1
      | some n =>
        let others (p : Process) := p.traps.filter (·.1 != n)
        modifyProcess fun p =>
          match action with
          | some a => { p with traps := (n, a) :: others p }
          | none => { p with traps := others p }
  match args with
  | [] =>
    let traps := (← process).traps.mergeSort fun a b => a.1 ≤ b.1
    traps.forM fun (n, action) =>
      say ("trap -- ".toList ++ quoted action ++ ' ' :: (Signal.name n).toList ++ ['\n'])
  | [t] => put [t] none
  | action :: signals =>
    if action.all Char.isDigit && !action.isEmpty then put args none
    else put signals (if action = ['-'] then none else some action)

/-- Waits for processes in the background. -/
def wait (hooks : Hooks) : Routine := fun args => do
  let (_, args) ← options "" args
  if args.isEmpty then waitForAll hooks.run
  else
    args.forM fun t => do
      if t.head? = some '%' then waitFor hooks.run (← namedJob t).number
      else waitFor hooks.run (← number t)

/-- Lists the processes in the background. -/
def jobs (hooks : Hooks) : Routine := fun args => do
  let (_, args) ← options "lp" args
  args.forM fun t => discard (namedJob t)
  catchUp hooks.run (← clock)
  let now ← clock
  setStatus 0
  let own ← ownJobs
  let count := own.length
  (own.zipIdx 1).forM fun (j, i) => do
    let ended := j.ended.any (·.time ≤ now)
    let mark := if i = count then '+' else if i + 1 = count then '-' else ' '
    let line := '[' :: Text.ofNat i ++ "] ".toList ++ mark :: ' ' ::
      (if ended then "Done".toList else "Running".toList)
    say (line ++ List.replicate (33 - line.length) ' ' ++ ['\n'])
    if ended then forgetJob j.number

/-! ## Options and parameters -/

/-- The options by name, with their letters. -/
def optionNames : List (String × Option Char) :=
  [("errexit", some 'e'), ("noglob", some 'f'), ("ignoreeof", some 'I'), ("interactive", some 'i'),
    ("monitor", some 'm'), ("noexec", some 'n'), ("stdin", some 's'), ("xtrace", some 'x'),
    ("verbose", some 'v'), ("vi", some 'V'), ("emacs", some 'E'), ("noclobber", some 'C'),
    ("allexport", some 'a'), ("notify", some 'b'), ("nounset", some 'u'), ("privileged", some 'p'),
    ("nolog", none), ("debug", none)]

/-- The process with an option on or off. -/
def setOption (p : Process) (on : Bool) (c : Char) : Process :=
  { p with options := if on then c :: p.options.filter (· != c) else p.options.filter (· != c) }

/-- Turns the option with a name on or off. -/
def setNamedOption (on : Bool) (name : Octets) : Act Unit := do
  match optionNames.find? (·.1.toList == name) with
  | some (_, some c) => modifyProcess (setOption · on c)
  | some (_, none) => return ()
  | none => abort ("Illegal option -o ".toList ++ name)

/-- Shows the options, as a table or as commands. -/
def showOptions (table : Bool) : Act Unit := do
  let p ← process
  if table then say "Current option settings\n".toList
  optionNames.forM fun (name, letter) => do
    let on := letter.any p.options.contains
    let t := name.toList
    if table then
      say (t ++ List.replicate (16 - t.length) ' ' ++ (if on then "on\n" else "off\n").toList)
    else say ((if on then "set -o " else "set +o ").toList ++ t ++ ['\n'])

/-- Sets the options in front of arguments; gives the arguments left, if there is something behind the
    options.  `fuel` bounds their number. -/
def setOptions : (fuel : Nat) → List Octets → Act (Option (List Octets))
  | 0, args => return some args
  | _, [] => return none
  | fuel + 1, a :: args => do
    match a with
    | ['-', '-'] => return some args
    | ['-'] =>
      modifyProcess fun p => setOption (setOption p false 'x') false 'v'
      if args.isEmpty then return none else return some args
    | ['+'] => setOptions fuel args
    | sign :: c :: letters =>
      if sign ≠ '-' && sign ≠ '+' then return some (a :: args)
      let on := sign = '-'
      let mut args := args
      for l in c :: letters do
        if l = 'o' then
          match args with
          | [] => showOptions on
          | n :: rest =>
            setNamedOption on n
            args := rest
        else if optionLetters.contains l then modifyProcess (setOption · on l)
        else abort ("Illegal option ".toList ++ [sign, l])
      setOptions fuel args
    | _ => return some (a :: args)

/-- Shows variables with their values, in order. -/
def showVariables (lead : Octets) (which : Process → Octets → Bool) : Act Unit := do
  let p ← process
  let named := p.bindings.filter fun v => isName v.1
  let unset := (p.exported ++ p.constant).filter fun n => !named.any (·.1 == n)
  let all := named.map (fun v => (v.1, some v.2)) ++ (unset.eraseDups.map fun n => (n, none))
  let chosen := all.filter fun v => which p v.1
  (chosen.mergeSort fun a b => Text.upTo a.1 b.1).forM fun (n, value) => do
    match value with
    | some v => say (lead ++ n ++ '=' :: quoted v ++ ['\n'])
    | none => if !lead.isEmpty then say (lead ++ n ++ ['\n'])

/-- Sets options and parameters. -/
def set_ : Routine := fun args => do
  setStatus 0
  if args.isEmpty then showVariables [] fun _ _ => true
  else
    match ← setOptions (args.length + 1) args with
    | some parameters =>
      modifyProcess fun p => { p with parameters, optionIndex := 1, optionOffset := 0 }
    | none => return ()

/-- Drops the first parameters. -/
def shift : Routine := fun args => do
  let n ← match args with
    | [] => pure 1
    | t :: _ => number t
  if (← process).parameters.length < n then abort "can't shift that many".toList
  modifyProcess fun p =>
    { p with parameters := p.parameters.drop n, optionIndex := 1, optionOffset := 0 }
  setStatus 0

/-- The first argument that may hold options, and what is left of it: none if there is no more. -/
def nextOption (index offset : Nat) (args : List Octets) : Option (Octets × Nat) :=
  let current := if index ≤ 1 || offset = 0 then [] else ((args[index - 2]?).getD []).drop offset
  if !current.isEmpty then some (current, index)
  else
    match args[index - 1]? with
    | some ('-' :: c :: t) => if c = '-' && t.isEmpty then none else some (c :: t, index + 1)
    | _ => none

/-- Looks at the next option among arguments. -/
def getopts : Routine := fun args => do
  match args with
  | spec :: name :: more =>
    let p ← process
    let args := if more.isEmpty then p.parameters else more
    let put (n v : Octets) : Act Unit := do
      if !isName n then abort (n ++ ": bad variable name".toList)
      assign n v
    let finish (index offset : Nat) (value : Octets) (status : Nat) : Act Unit := do
      modifyProcess (·.assign "OPTIND".toList (Text.ofNat index))
      modifyProcess fun p => { p with optionIndex := index, optionOffset := offset }
      put name value
      setStatus status
    match nextOption p.optionIndex p.optionOffset args with
    | none =>
      let ended := args[p.optionIndex - 1]? = some ['-', '-']
      finish (if ended then p.optionIndex + 1 else p.optionIndex) 0 ['?'] 1
    | some ([], _) => finish p.optionIndex 0 ['?'] 1
    | some (c :: rest, index) =>
      let silent := spec.head? = some ':'
      let offset := ((args[index - 2]?).getD []).length - rest.length
      let known := c ≠ ':' && spec.contains c
      let valued := known && ((spec.dropWhile (· != c)).drop 1).head? = some ':'
      if !known then
        if silent then put "OPTARG".toList [c]
        else
          write 2 ("Illegal option -".toList ++ [c, '\n'])
          modifyProcess (·.forget "OPTARG".toList)
        finish index offset ['?'] 0
      else if !valued then
        put "OPTARG".toList []
        finish index offset [c] 0
      else if !rest.isEmpty then
        put "OPTARG".toList rest
        finish index 0 [c] 0
      else
        match args[index - 1]? with
        | some v =>
          put "OPTARG".toList v
          finish (index + 1) 0 [c] 0
        | none =>
          if silent then
            put "OPTARG".toList [c]
            finish index 0 [':'] 0
          else
            write 2 ("No arg for -".toList ++ c :: " option\n".toList)
            modifyProcess (·.forget "OPTARG".toList)
            finish index 0 ['?'] 0
  | _ => abort "Usage: getopts optstring var [arg...]".toList

/-! ## Variables -/

/-- A name, and the value after an equals sign if there is one. -/
def binding (t : Octets) : Octets × Option Octets :=
  let name := t.takeWhile (· != '=')
  if name.length < t.length then (name, some (t.drop (name.length + 1))) else (name, none)

/-- Marks variables, after giving them values. -/
def declare (lead : String) (isMarked : Process → Octets → Bool) (mark : Octets → Process → Process) :
    Routine := fun args => do
  let (letters, args) ← options "p" args
  setStatus 0
  if letters.contains 'p' || args.isEmpty then showVariables lead.toList isMarked
  else
    args.forM fun a => do
      let (n, value) := binding a
      if !isName n then abort (n ++ ": bad variable name".toList)
      match value with
      | some v => assign n v
      | none => pure ()
      modifyProcess (mark n)

/-- Lets programs see bindings. -/
def exportNames : Routine :=
  declare "export " (fun p n => p.exported.contains n) fun n p => p.passOn n

/-- Fixes the values of bindings. -/
def freeze : Routine :=
  declare "readonly " (fun p n => p.constant.contains n) fun n p =>
    { p with constant := n :: p.constant.filter (· != n) }

/-- Forgets variables or functions. -/
def unset : Routine := fun args => do
  let (letters, names) ← options "fv" args
  setStatus 0
  names.forM fun n => do
    let isFunction := (← process).functions.any (·.1 == n)
    let isVariable := ((← process).lookup? n).isSome
    if letters.contains 'f' || (isFunction && !isVariable && !letters.contains 'v') then
      modifyProcess fun p => { p with functions := p.functions.filter (·.1 != n) }
    else
      if !isName n then abort (n ++ ": bad variable name".toList)
      if (← process).constant.contains n then abort (n ++ ": is read only".toList)
      modifyProcess (·.forget n)

/-- Makes variables a function's own. -/
def makeOwn : Routine := fun args => do
  setStatus 0
  if (← process).locals.isEmpty then abort "not in a function".toList
  args.forM fun a => do
    let (n, value) := binding a
    if n = ['-'] then pure ()
    else
      if !isName n then abort (n ++ ": bad variable name".toList)
      modifyProcess fun p =>
        match p.locals with
        | own :: rest =>
          if own.any (·.1 == n) then p else { p with locals := ((n, p.lookup? n) :: own) :: rest }
        | [] => p
      match value with
      | some v => assign n v
      | none => pure ()

/-! ## Input -/

/-- The line at the start of a text, with escapes carried out unless `raw`; its characters know
    whether they were escaped.  Gives what follows, and whether the line has an end. -/
def readLine (raw : Bool) : Octets → List Marked × Octets × Bool
  | [] => ([], [], false)
  | '\n' :: t => ([], t, true)
  | '\\' :: c :: t =>
    if raw then
      let (l, rest, ended) := readLine raw (c :: t)
      (('\\', false) :: l, rest, ended)
    else
      let (l, rest, ended) := readLine raw t
      if c = '\n' then (l, rest, ended) else ((c, true) :: l, rest, ended)
  | c :: t =>
    let (l, rest, ended) := readLine raw t
    (if c = '\\' && !raw then l else (c, false) :: l, rest, ended)

/-- What is left of a line for the last name: blanks at its end are dropped, and so is a single mark
    with nothing behind it. -/
def lastField (isSeparator isSpace : Marked → Bool) (line : List Marked) : Octets :=
  let bare := (line.reverse.dropWhile isSpace).reverse
  let field := bare.takeWhile fun m => !isSeparator m
  let tail := (bare.drop field.length).dropWhile isSpace
  match tail with
  | [m] => if isSeparator m then field.map (·.1) else bare.map (·.1)
  | _ => bare.map (·.1)

/-- Cuts the first fields off a line; the last name takes what is left.  `count` is the number of
    names. -/
def cutFields (separators : Octets) : (count : Nat) → List Marked → List Octets
  | 0, _ => []
  | n + 1, line =>
    let isSeparator (m : Marked) : Bool := !m.2 && separators.contains m.1
    let isSpace (m : Marked) : Bool := isSeparator m && (m.1 == ' ' || m.1 == '\t' || m.1 == '\n')
    let line := line.dropWhile isSpace
    if n = 0 then [lastField isSeparator isSpace line]
    else
      let field := line.takeWhile fun m => !isSeparator m
      let rest := (line.drop field.length).dropWhile isSpace
      let rest := match rest with
        | m :: r => if isSeparator m then r else rest
        | [] => []
      field.map (·.1) :: cutFields separators n rest

/-- Reads a line into bindings. -/
def readFields : Routine := fun args => do
  let (flags, names) ← optionsWith "r" "p" (args.length + 1) args
  let raw := flags.any (·.1 == 'r')
  if names.isEmpty then abort "arg count".toList
  match ← target? 0 with
  | none => setStatus 1
  | some _ =>
    let (line, rest, ended) := readLine raw (← peekInput)
    setInput rest
    -- Null characters cannot be kept.
    let line := line.filter (·.1 != '\x00')
    let fields := cutFields (← process).separators names.length line
    (names.zip fields).forM fun (n, v) => do
      if !isName n then abort (n ++ ": bad variable name".toList)
      assign n v
    setStatus (if ended then 0 else 1)

/-! ## Control -/

/-- Leaves a function or a script. -/
def leaveFunction : Routine := fun args => do
  match args with
  | [] => pure ()
  | t :: _ => setStatus ((← number t) % 256)
  throw .return_

/-- Jumps out of as many loops as an argument says; outside of loops, nothing happens. -/
def jump (leave : Nat → Leave) : Routine := fun args => do
  let n ← match args with
    | [] => pure 1
    | t :: _ => number t
  if n = 0 then abort "Illegal number: 0".toList
  setStatus 0
  let loops := (← process).loops
  if 0 < loops then throw (leave (min n loops))

/-- Leaves loops. -/
def leaveLoop : Routine := jump .break_

/-- Goes on with the next round of a loop. -/
def nextRound : Routine := jump .continue_

/-! ## Settings -/

/-- The permissions that a class of users keeps, in letters. -/
def maskLetters (mask shift : Nat) : Octets :=
  let bits := 7 - mask / shift % 8
  (if bits / 4 % 2 = 1 then ['r'] else []) ++ (if bits / 2 % 2 = 1 then ['w'] else []) ++
    (if bits % 2 = 1 then ['x'] else [])

/-- Shows or sets the permissions that new files do not get. -/
def umask : Routine := fun args => do
  let (letters, args) ← options "S" args
  setStatus 0
  let mask := (← process).umask
  match args with
  | [] =>
    if letters.contains 'S' then
      say ("u=".toList ++ maskLetters mask 64 ++ ",g=".toList ++ maskLetters mask 8 ++ ",o=".toList ++
        maskLetters mask 1 ++ ['\n'])
    else say (Utility.modeDigits mask ++ ['\n'])
  | t :: _ =>
    if t.head?.any Char.isDigit then
      if t.all Format.isOctal then
        modifyProcess fun p =>
          { p with umask := t.foldl (fun v d => 8 * v + (d.toNat - 48)) 0 &&& 0o777 }
      else abort ("Illegal number: ".toList ++ t)
    else
      match Utility.applyMode? t 0 true (0o777 &&& (0o777 ^^^ mask)) with
      | some mode => modifyProcess fun p => { p with umask := 0o777 &&& (0o777 ^^^ mode) }
      | none => abort ("Illegal mode: ".toList ++ t)

/-- Shows a limit; none is kept. -/
def ulimit : Routine := fun args => do
  let (letters, args) ← options "HSatfdscmlpnvwr" args
  setStatus 0
  if args.isEmpty then
    match letters.filter fun c => c ≠ 'H' && c ≠ 'S' with
    | ['n'] => say "1024\n".toList
    | ['c'] => say "0\n".toList
    | ['s'] => say "8192\n".toList
    | _ => say "unlimited\n".toList

/-- Shows the time that processes have taken. -/
def times : Routine := fun _ => do
  say "0m0.000000s 0m0.000000s\n0m0.000000s 0m0.000000s\n".toList
  setStatus 0

/-- Gives names to texts, or shows them. -/
def alias_ : Routine := fun args => do
  setStatus 0
  let showOne (a : Octets × Octets) : Act Unit := say (a.1 ++ '=' :: quoted a.2 ++ ['\n'])
  if args.isEmpty then (← process).aliases.forM showOne
  else
    args.forM fun a => do
      match binding a with
      | (n, some v) =>
        modifyProcess fun p => { p with aliases := (n, v) :: p.aliases.filter (·.1 != n) }
      | (n, none) =>
        match (← process).aliases.find? (·.1 == n) with
        | some found => showOne found
        | none =>
          write 2 ("alias: ".toList ++ n ++ " not found\n".toList)
          setStatus 1

/-- Takes names away from texts. -/
def unalias : Routine := fun args => do
  let (letters, args) ← options "a" args
  setStatus 0
  if letters.contains 'a' then modifyProcess fun p => { p with aliases := [] }
  args.forM fun n => do
    if (← process).aliases.any (·.1 == n) then
      modifyProcess fun p => { p with aliases := p.aliases.filter (·.1 != n) }
    else
      write 2 ("unalias: ".toList ++ n ++ " not found\n".toList)
      setStatus 1

/-- Jobs cannot be brought to the front. -/
def noJob : Routine := fun args => do
  let shown ← match args with
    | t :: _ => do
      discard (namedJob t)
      pure t
    | [] => do
      if (← ownJobs).isEmpty then abort "No current job".toList
      pure "(null)".toList
  abort ("job ".toList ++ shown ++ " not created under job control".toList)

/-- The commands of the shell by name. -/
def catalog (hooks : Hooks) : List (String × Routine) :=
  [(":", always 0), ("true", always 0), ("false", always 1), ("echo", echo), ("printf", printf),
    ("test", test), ("[", test), ("exit", exit), ("cd", cd), ("chdir", cd), ("pwd", pwd),
    ("kill", kill), ("trap", trap), ("wait", wait hooks), ("jobs", jobs hooks), ("fg", noJob),
    ("bg", noJob), ("set", set_), ("shift", shift), ("getopts", getopts), ("export", exportNames),
    ("readonly", freeze), ("unset", unset), ("local", makeOwn), ("read", readFields),
    ("return", leaveFunction), ("break", leaveLoop), ("continue", nextRound), ("umask", umask),
    ("ulimit", ulimit), ("times", times), ("alias", alias_), ("unalias", unalias),
    ("eval", fun args => do
      setStatus 0
      hooks.eval (List.intercalate [' '] args))]

/-- The names of the commands of the shell. -/
def names : List String :=
  (catalog ⟨fun _ => return (), fun _ => return ()⟩).map (·.1) ++ [".", "exec", "command", "type", "hash"]

end Retouch.Shell.Builtin
