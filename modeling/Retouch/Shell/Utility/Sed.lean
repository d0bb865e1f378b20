/-
  Editing of lines by scripts.

  The script runs once for each line: the line is in the pattern space, changes it, and is written at
  the end.  The hold space keeps its text from line to line.
-/
import Retouch.Shell.Utility.Paths
import Retouch.Shell.Utility.SedScript

namespace Retouch.Shell.Utility

/-! ## State -/

/-- A line of input, and whether a mark ends it. -/
structure SedLine where
  text : Octets
  ended : Bool

/-- A file of input: its name, and its lines that are left. -/
structure SedFile where
  name : Octets
  lines : List SedLine

/-- What comes behind the line when its turn is over. -/
inductive Queued where
  | text (t : Octets)
  | file (path : Octets)

/-- The state of a run. -/
structure Sed where
  pattern : Octets := []
  /-- A mark ended the last line that was read. -/
  ended : Bool := true
  hold : Octets := []
  number : Nat := 0
  files : List SedFile := []
  name : Octets := ['-']
  /-- The ends of ranges that are open, by command; none is an end that a line tells. -/
  ranges : Array (Option (Option Nat)) := #[]
  last : Option Matcher := none
  queue : List Queued := []
  /-- A substitution was made since the last line was read or the last jump. -/
  changed : Bool := false
  /-- What is left of files that are read line by line. -/
  readers : List (Octets × List Octets) := []
  /-- Targets of output whose last line has no end yet. -/
  unfinished : List Octets := []
  /-- The file that is edited in place, with what has been written for it, the last piece first. -/
  place : Option (Octets × List Octets) := none

/-- How a run is set up. -/
structure SedSetup where
  script : SedScript
  quiet : Bool
  separate : Bool
  inPlace : Option Octets
  mark : Char
  width : Nat

/-- A run. -/
abbrev SedRun := StateT Sed Utility

/-- What comes after a command. -/
inductive SedNext where
  | command (index : Nat)
  /-- The turn of the line is over. -/
  | finish
  /-- The turn is over, and nothing is written. -/
  | discard
  /-- The next turn starts with what is in the pattern space. -/
  | again
  | quit (status : Nat)

namespace SedRun

/-! ## Output -/

/-- The name of the output among targets. -/
def output : Octets := "/dev/stdout".toList

/-- Writes to a target. -/
def emit (target t : Octets) : SedRun Unit := do
  let s ← get
  if target = output then
    match s.place with
    | some (path, pieces) => set { s with place := some (path, t :: pieces) }
    | none => say t
  else discard (store target true t)

/-- Writes a text with or without a mark at its end; a line before it that has no mark gets one. -/
def emitLine (setup : SedSetup) (target t : Octets) (ended : Bool) : SedRun Unit := do
  if (← get).unfinished.contains target then emit target [setup.mark]
  emit target (if ended then t ++ [setup.mark] else t)
  modify fun s =>
    { s with
      unfinished := if ended then s.unfinished.filter (· != target)
        else target :: s.unfinished.filter (· != target) }

/-- Writes a text that has its own ends of lines. -/
def emitText (setup : SedSetup) (target t : Octets) : SedRun Unit := do
  if (← get).unfinished.contains target then emit target [setup.mark]
  modify fun s => { s with unfinished := s.unfinished.filter (· != target) }
  emit target t

/-- Writes the pattern space. -/
def emitPattern (setup : SedSetup) : SedRun Unit := do
  let s ← get
  emitLine setup output s.pattern s.ended

/-- Writes what comes behind the line. -/
def flushQueue (setup : SedSetup) : SedRun Unit := do
  let queue := (← get).queue
  modify fun s => { s with queue := [] }
  queue.forM fun q => do
    match q with
    | .text t => emitText setup output t
    | .file path =>
      match ← (content path : Utility _) with
      | .ok t =>
        if !t.isEmpty then emitText setup output t
      | .error _ => pure ()

/-! ## Input -/

/-- Whether no line follows. -/
def atEnd (setup : SedSetup) : SedRun Bool := do
  match (← get).files with
  | [] => return true
  | f :: rest => return f.lines.isEmpty && (setup.separate || rest.all (·.lines.isEmpty))

/-- Stores what was written for the file that is edited in place. -/
def finishPlace (setup : SedSetup) : SedRun Unit := do
  match (← get).place with
  | none => return ()
  | some (path, pieces) =>
    match setup.inPlace with
    | some ending =>
      if !ending.isEmpty then
        let backup := if ending.contains '*' then ending.flatMap fun c => if c = '*' then path else [c]
          else path ++ ending
        match ← (content path : Utility _) with
        | .ok old => discard (store backup false old)
        | .error _ => pure ()
    | none => pure ()
    discard (store path false pieces.reverse.flatten)
    modify fun s => { s with place := none, unfinished := s.unfinished.filter (· != output) }

/-- Reads the next line; `fuel` bounds the number of files. -/
def nextLine (setup : SedSetup) : (fuel : Nat) → SedRun (Option SedLine)
  | 0 => return none
  | fuel + 1 => do
    let s ← get
    match s.files with
    | [] => return none
    | f :: rest =>
      match f.lines with
      | l :: lines =>
        if setup.inPlace.isSome && s.place.isNone then
          modify fun s => { s with place := some (f.name, []) }
        modify fun s => { s with files := { f with lines } :: rest, name := f.name, number := s.number + 1 }
        return some l
      | [] =>
        if setup.inPlace.isSome then
          if s.place.isNone then modify fun s => { s with place := some (f.name, []) }
          finishPlace setup
        modify fun s =>
          { s with files := rest, number := if setup.separate then 0 else s.number }
        nextLine setup fuel

/-- Reads the next line into the pattern space, or adds it; tells whether there was one. -/
def readLine (setup : SedSetup) (add : Bool) : SedRun Bool := do
  flushQueue setup
  match ← nextLine setup ((← get).files.length + 1) with
  | none => return false
  | some l =>
    modify fun s =>
      { s with
        pattern := if add then s.pattern ++ setup.mark :: l.text else l.text
        ended := l.ended
        changed := if add then s.changed else false }
    return true

/-! ## Addresses -/

/-- The matcher of an expression, which becomes the last one used. -/
def matcherOf (r : Pattern?) : SedRun Matcher := do
  match r with
  | some m =>
    modify fun s => { s with last := some m }
    return m
  | none =>
    match (← get).last with
    | some m => return m
    | none => (refuse "-e expression #1, char 0: no previous regular expression".toList 1 : Utility _)

/-- Whether an expression is found in the pattern space. -/
def finds (r : Pattern?) : SedRun Bool := do
  let m ← matcherOf r
  return m.finds (← get).pattern.toArray

/-- Whether an address names the line. -/
def names (setup : SedSetup) : LineAddress → SedRun Bool
  | .line n => return (← get).number == n
  | .every first step => do
    let n := (← get).number
    return if step = 0 then n == first else first ≤ n && (n - first) % step == 0
  | .last => atEnd setup
  | .matching r => finds r

/-- Sets whether a range is open. -/
def setRange (i : Nat) (r : Option (Option Nat)) : SedRun Unit :=
  modify fun s => { s with ranges := s.ranges.setIfInBounds i r }

/-- Whether a range holds the line; it may start or end with it. -/
def inRange (setup : SedSetup) (i : Nat) (start : LineAddress) (stop : RangeEnd) : SedRun Bool := do
  let n := (← get).number
  match ((← get).ranges[i]?).getD none with
  | none =>
    if !(← names setup start) then return false
    let until_ (k : Nat) : SedRun Bool := do
      if n < k then setRange i (some (some k))
      return true
    match stop with
    | .line k => until_ k
    | .more k => until_ (n + k)
    | .multiple k => until_ (if k = 0 then n else (n + k - 1) / k * k)
    | .last =>
      if !(← atEnd setup) then setRange i (some none)
      return true
    | .matching _ =>
      setRange i (some none)
      return true
  | some (some k) =>
    if k ≤ n then setRange i none
    return n ≤ k
  | some none =>
    match stop with
    | .matching r => if ← finds r then setRange i none
    | _ => if ← atEnd setup then setRange i none
    return true

/-- Whether a command is for the line. -/
def selects (setup : SedSetup) (i : Nat) (c : SedCommand) : SedRun Bool := do
  let hit ← match c.start, c.stop with
    | none, _ => pure true
    | some a, none => names setup a
    | some a, some b => inRange setup i a b
  return hit != c.negated

/-! ## Substitution -/

/-- A text in another case: what holds for its first character, and what holds for all. -/
def inCase (once all : Option CaseChange) (t : Octets) : Octets :=
  let change (k : Option CaseChange) (c : Char) : Char :=
    match k with
    | some .lower | some .lowerNext => c.toLower
    | some .upper | some .upperNext => c.toUpper
    | _ => c
  match t with
  | [] => []
  | c :: r => (if once.isSome then change once c else change all c) :: r.map (change all)

/-- The text of a replacement for a match. -/
def replacementText (f : Match) (t : Array Char) (ps : List ReplacementPiece) : Octets :=
  let (pieces, _, _) := ps.foldl
    (fun (out, once, all) p =>
      let put (s : Octets) : List Octets × Option CaseChange × Option CaseChange :=
        if s.isEmpty then (out, once, all) else (inCase once all s :: out, none, all)
      match p with
      | .text s => put s
      | .group n => put (f.group t n)
      | .case_ c =>
        match c with
        | .lowerNext | .upperNext => (out, some c, all)
        | .keep => (out, none, none)
        | c => (out, none, some c))
    (([] : List Octets), (none : Option CaseChange), (none : Option CaseChange))
  pieces.reverse.flatten

/-- The matches that a substitution replaces; `fuel` bounds their number. -/
def replaced (m : Matcher) (s : Substitution) (t : Array Char) : List Match :=
  if s.first = 1 && !s.all then (m.search t 0).toList
  else
    let found := (m.all t).drop (s.first - 1)
    if s.all then found else found.take 1

/-- A text with matches replaced, from a place on. -/
def splice (t : Array Char) (ps : List ReplacementPiece) : (at_ : Nat) → List Match → List Octets
  | at_, [] => [(t.extract at_ t.size).toList]
  | at_, f :: fs => (t.extract at_ f.start).toList :: replacementText f t ps :: splice t ps f.stop fs

/-- Carries out a substitution. -/
def substitute (setup : SedSetup) (s : Substitution) : SedRun Unit := do
  let m ← matcherOf s.pattern
  let t := (← get).pattern.toArray
  let found := replaced m s t
  if !found.isEmpty then
    let text := (splice t s.replacement 0 found).flatten
    modify fun st => { st with pattern := text, changed := true }
    if s.print then emitPattern setup
    match s.file with
    | some path => emitLine setup path text (← get).ended
    | none => pure ()

/-! ## Commands -/

/-- A character as `l` shows it. -/
def listedChar (c : Char) : Octets :=
  if c = '\\' then "\\\\".toList else if isShown c then [c] else escapedChar c

/-- The lines by which `l` shows a text: each but the last ends with a backslash. -/
def listedText (width : Nat) (t : Octets) : Octets :=
  let (done, line) := t.foldl
    (fun (done, line) c =>
      let s := listedChar c
      if 0 < width && width - 1 < line.length + s.length then (done ++ line ++ "\\\n".toList, s)
      else (done, line ++ s))
    (([] : Octets), ([] : Octets))
  done ++ line ++ ['$']

/-- The next line of a file that is read line by line. -/
def nextOf (path : Octets) : SedRun (Option Octets) := do
  let lines ← match (← get).readers.find? (·.1 == path) with
    | some (_, lines) => pure lines
    | none =>
      match ← (content path : Utility _) with
      | .ok t => pure (bareLines t)
      | .error _ => pure []
  modify fun s => { s with readers := (path, lines.drop 1) :: s.readers.filter (·.1 != path) }
  return lines.head?

/-- Carries out the command with a number. -/
def step (setup : SedSetup) (i : Nat) (c : SedCommand) : SedRun SedNext := do
  let next := SedNext.command (i + 1)
  let selected ← selects setup i c
  let firstLine (t : Octets) : Octets := t.takeWhile (· != setup.mark)
  match c.action with
  | .group past => return if selected then next else .command past
  | action =>
    if !selected then return next
    let queue (q : Queued) : SedRun SedNext := do
      modify fun s => { s with queue := s.queue ++ [q] }
      return next
    match action with
    | .group _ | .nothing => return next
    | .append t => queue (.text t)
    | .insert t =>
      emitText setup output t
      return next
    | .change t =>
      let open_ := c.stop.isSome && !c.negated && (((← get).ranges[i]?).getD none).isSome
      if !open_ then emitText setup output t
      return .discard
    | .delete => return .discard
    | .deleteFirst =>
      let t := (← get).pattern
      if t.contains setup.mark then
        modify fun s => { s with pattern := t.drop ((firstLine t).length + 1) }
        return .again
      else return .discard
    | .name =>
      emitLine setup output (← get).name true
      return next
    | .get =>
      modify fun s => { s with pattern := s.hold }
      return next
    | .getMore =>
      modify fun s => { s with pattern := s.pattern ++ setup.mark :: s.hold }
      return next
    | .hold =>
      modify fun s => { s with hold := s.pattern }
      return next
    | .holdMore =>
      modify fun s => { s with hold := s.hold ++ setup.mark :: s.pattern }
      return next
    | .exchange =>
      modify fun s => { s with pattern := s.hold, hold := s.pattern }
      return next
    | .list width =>
      emitLine setup output (listedText (width.getD setup.width) (← get).pattern) true
      return next
    | .next =>
      if ← atEnd setup then return .finish
      if !setup.quiet then emitPattern setup
      discard (readLine setup false)
      return next
    | .nextMore =>
      if ← atEnd setup then return .finish
      discard (readLine setup true)
      return next
    | .print =>
      emitPattern setup
      return next
    | .printFirst =>
      emitLine setup output (firstLine (← get).pattern) true
      return next
    | .quit status silent =>
      if !silent then
        if !setup.quiet then emitPattern setup
        flushQueue setup
      return .quit status
    | .readFile path => queue (.file path)
    | .readLine path =>
      match ← nextOf path with
      | some l => queue (.text (l ++ ['\n']))
      | none => return next
    | .substitute s =>
      substitute setup s
      return next
    | .jump test label =>
      let changed := (← get).changed
      let goes := match test with
        | .always => true
        | .changed => changed
        | .unchanged => !changed
      if test ≠ .always then modify fun s => { s with changed := false }
      if !goes then return next
      if label.isEmpty then return .finish
      match setup.script.labels.find? (·.1 == label) with
      | some (_, target) => return .command target
      | none => return .finish
    | .write path =>
      emitLine setup path (← get).pattern (← get).ended
      return next
    | .writeFirst path =>
      emitLine setup path (firstLine (← get).pattern) true
      return next
    | .translate from_ into_ =>
      let table := from_.zip into_
      modify fun s =>
        { s with pattern := s.pattern.map fun c => ((table.find? (·.1 == c)).map (·.2)).getD c }
      return next
    | .number =>
      emitLine setup output (Text.ofNat (← get).number) true
      return next
    | .zap =>
      modify fun s => { s with pattern := [] }
      return next

/-- Runs the script from a command on, and then for the lines that are left; `fuel` bounds the
    commands.  A script that does not end in so many is taken to run on forever. -/
def run (setup : SedSetup) : (fuel : Nat) → (index : Nat) → SedRun Nat
  | 0, _ => do
    (modify fun w => { w with stuck := true } : Utility Unit)
    return 0
  | fuel + 1, i => do
    let after ← match setup.script.commands[i]? with
      | some c => step setup i c
      | none => pure .finish
    match after with
    | .command j => run setup fuel j
    | .quit status => return status
    | .again =>
      flushQueue setup
      run setup fuel 0
    | turn =>
      match turn with
      | .finish => if !setup.quiet then emitPattern setup
      | _ => pure ()
      if ← readLine setup false then run setup fuel 0 else return 0

/-- How many commands a script runs at most. -/
def stepLimit : Nat := 5000000

/-- Runs the script for all lines. -/
def whole (setup : SedSetup) : SedRun Nat := do
  -- A range from line zero on is open from the start.
  let ranges := setup.script.commands.map fun c =>
    match c.start with
    | some (.line 0) => some none
    | _ => none
  modify fun s => { s with ranges }
  let status ← if ← readLine setup false then run setup stepLimit 0 else pure 0
  finishPlace setup
  return status

end SedRun

/-! ## The utility -/

/-- Lines of a text with their ends. -/
def sedLines (mark : Char) (t : Octets) : List SedLine :=
  let pieces := records mark t
  let whole := t.getLast? == some mark
  pieces.mapIdx fun i p => ⟨p, whole || i + 1 < pieces.length⟩

/-- A fault of a script: the part it is in, and the place there. -/
def scriptFault (parts : List (Option Octets × Octets)) (count : Nat) (message : Octets) : Octets :=
  let rec find : (number : Nat) → (at_ : Nat) → List (Option Octets × Octets) → Octets
    | _, _, [] => message
    | number, at_, (file, t) :: rest =>
      let next := if file.isNone then number + 1 else number
      if count ≤ at_ + t.length || rest.isEmpty then
        match file with
        | none =>
          "-e expression #".toList ++ Text.ofNat number ++ ", char ".toList ++ Text.ofNat (count - at_) ++
            ": ".toList ++ message
        | some name =>
          let line := ((t.take (count - at_ - 1)).filter (· == '\n')).length + 1
          "file ".toList ++ name ++ " line ".toList ++ Text.ofNat line ++ ": ".toList ++ message
      else find next (at_ + t.length + 1) rest
  find 1 0 parts

/-- How `sed` is called. -/
def sedUsage : String := "Usage: sed [OPTION]... \x7bscript-only-if-no-other-script\x7d [input-file]...\n"

/-- The options of `sed`. -/
def sedGrammar : Grammar where
  plain := "nrEsuz!"
  valued := "efl"
  optional := "i"
  long := [("quiet", 'n'), ("silent", 'n'), ("expression", 'e'), ("file", 'f'), ("in-place", 'i'),
    ("line-length", 'l'), ("posix", '!'), ("regexp-extended", 'E'), ("separate", 's'),
    ("unbuffered", 'u'), ("null-data", 'z'), ("zero-terminated", 'z'), ("sandbox", '!'),
    ("follow-symlinks", '!'), ("debug", '!')]

/-- The files that a script writes to. -/
def writtenFiles (s : SedScript) : List Octets :=
  s.commands.toList.filterMap fun c =>
    match c.action with
    | .write p | .writeFirst p => some p
    | .substitute s => s.file
    | _ => none

/-- Edits lines. -/
def sed : Utility Unit := do
  let args := (← read).args
  let o ← match sortArgs sedGrammar (args.length + 1) args with
    | .ok o => pure o
    | .error m =>
      complain m 1
      warn sedUsage.toList
      throw ()
  let mut parts : List (Option Octets × Octets) := []
  for (c, v) in o.flags do
    if c = 'e' then parts := parts ++ [(none, v)]
    else if c = 'f' then
      match ← content (if v = ['-'] then "/dev/stdin".toList else v) with
      | .ok t => parts := parts ++ [(some v, (Text.dropSuffix? ['\n'] t).getD t)]
      | .error fault => refuse ("couldn't open file ".toList ++ about v fault) 1
  if parts.isEmpty then
    match o.operands with
    | [] =>
      warn sedUsage.toList
      setStatus 1
      throw ()
    | s :: _ => parts := [(none, s)]
  let given := o.has 'e' || o.has 'f'
  let operands := if given then o.operands else o.operands.drop 1
  let text := List.intercalate ['\n'] (parts.map (·.2))
  let script ← match SedScript.read (o.has 'E' || o.has 'r') text with
    | .ok s => pure s
    | .error (n, m) =>
      if n = 0 then refuse ("-e expression #1, char 0: ".toList ++ m) 1
      else refuse (scriptFault parts n m) 1
  for c in script.commands do
    match c.action with
    | .jump _ label =>
      if !label.isEmpty && !script.labels.any (·.1 == label) then
        refuse ("can't find label for jump to \x60".toList ++ label ++ ['\'']) 4
    | _ => pure ()
  let mark := if o.has 'z' then '\x00' else '\n'
  let inPlace := o.value? 'i'
  if inPlace.isSome && operands.isEmpty then refuse "no input files".toList 4
  (writtenFiles script).forM fun p => discard (store p false [])
  let mut files : List SedFile := []
  for p in (if operands.isEmpty then [['-']] else operands) do
    let isDir ← isDirectory p
    if isDir then
      complain (if inPlace.isSome then "couldn't edit ".toList ++ p ++ ": not a regular file".toList
        else "read error on ".toList ++ about p .isDirectory) 4
    else
      match ← content p with
      | .ok t => files := files ++ [⟨p, sedLines mark t⟩]
      | .error fault => complain ("can't read ".toList ++ about p fault) 2
  let quiet := o.has 'n' || text.take 3 = "#n\n".toList || text = "#n".toList
  let width := ((o.value? 'l').bind (Text.natBelow? 100000)).getD 70
  let setup : SedSetup :=
    { script, quiet, separate := o.has 's' || inPlace.isSome, inPlace, mark, width }
  let (status, s) ← StateT.run (SedRun.whole setup) { files }
  -- A script that stops early does not wait for the rest of its input.
  if !(s.files.all (·.lines.isEmpty)) then
    settle
    leave ((s.files.flatMap (·.lines)).map fun l => if l.ended then l.text ++ [mark] else l.text).flatten
  if status ≠ 0 then setStatus status

end Retouch.Shell.Utility
