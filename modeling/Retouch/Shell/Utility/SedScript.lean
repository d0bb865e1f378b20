/-
  Scripts of `sed`: their commands, and how they are read.

  A script is a list of commands, each with the addresses of the lines that it is for.  A group of
  commands starts with one that goes past the group if its line is not addressed.
-/
import Retouch.Shell.Format
import Retouch.Shell.Matching
import Retouch.Shell.Utility.Basic

namespace Retouch.Shell.Utility

/-! ## Commands -/

/-- A regular expression of a script; none is the last one that was used. -/
abbrev Pattern? := Option Matcher

/-- Lines that a command is for, or that start a range. -/
inductive LineAddress where
  | line (n : Nat)
  | every (first step : Nat)
  | last
  | matching (r : Pattern?)

/-- Where a range of lines ends. -/
inductive RangeEnd where
  | line (n : Nat)
  | last
  | matching (r : Pattern?)
  /-- So many lines more. -/
  | more (n : Nat)
  /-- The next line whose number is a multiple. -/
  | multiple (n : Nat)

/-- A change of the case of what follows. -/
inductive CaseChange where
  | lower
  | upper
  | lowerNext
  | upperNext
  | keep
deriving DecidableEq

/-- A piece of a replacement. -/
inductive ReplacementPiece where
  | text (t : Octets)
  | group (n : Nat)
  | case_ (c : CaseChange)

/-- When a jump is made. -/
inductive JumpTest where
  | always
  | changed
  | unchanged
deriving DecidableEq

/-- A substitution. -/
structure Substitution where
  pattern : Pattern?
  replacement : List ReplacementPiece
  /-- The first match that is replaced. -/
  first : Nat := 1
  all : Bool := false
  print : Bool := false
  file : Option Octets := none

/-- What a command does. -/
inductive SedAction where
  /-- Goes on behind the command with a number if the line is not addressed. -/
  | group (past : Nat)
  | nothing
  | append (t : Octets)
  | insert (t : Octets)
  | change (t : Octets)
  | delete
  | deleteFirst
  | name
  | get
  | getMore
  | hold
  | holdMore
  | exchange
  | list (width : Option Nat)
  | next
  | nextMore
  | print
  | printFirst
  | quit (status : Nat) (silent : Bool)
  | readFile (path : Octets)
  | readLine (path : Octets)
  | substitute (s : Substitution)
  | jump (test : JumpTest) (label : Octets)
  | write (path : Octets)
  | writeFirst (path : Octets)
  | translate (from_ into_ : Octets)
  | number
  | zap

/-- A command with its addresses. -/
structure SedCommand where
  start : Option LineAddress := none
  stop : Option RangeEnd := none
  negated : Bool := false
  action : SedAction

/-- A script: its commands, and the numbers of those behind labels. -/
structure SedScript where
  commands : Array SedCommand
  labels : List (Octets × Nat)

/-! ## Reading of characters -/

/-- What is left of a script, and how much has been read. -/
structure Scanned where
  rest : Octets
  count : Nat := 0

/-- A step of reading; a fault is told with the place. -/
abbrev Scan := StateT Scanned (Except (Nat × Octets))

namespace Scan

/-- Fails at the place that has been reached. -/
def fault {α : Type} (message : String) : Scan α := do throw ((← get).count, message.toList)

/-- The next character, which stays. -/
def peek : Scan (Option Char) := return (← get).rest.head?

/-- Goes over some characters. -/
def skip (n : Nat) : Scan Unit := modify fun s => ⟨s.rest.drop n, s.count + min n s.rest.length⟩

/-- The next character. -/
def next : Scan (Option Char) := do
  let c ← peek
  skip 1
  return c

/-- The characters that satisfy a condition. -/
def takeWhile (p : Char → Bool) : Scan Octets := do
  let t := (← get).rest.takeWhile p
  skip t.length
  return t

/-- Goes over blanks. -/
def skipBlanks : Scan Unit := discard (takeWhile fun c => c == ' ' || c == '\t')

end Scan

/-- The length of a set between brackets, the opening one left out, with the closing one. -/
def bracketLength (t : Octets) : Option Nat :=
  let lead := if t.head? = some '^' then 1 else 0
  let lead := if (t.drop lead).head? = some ']' then lead + 1 else lead
  go (t.length + 1) lead (t.drop lead)
where
  /-- Goes over the members of the set. -/
  go : (fuel : Nat) → Nat → Octets → Option Nat
    | 0, _, _ => none
    | fuel + 1, n, t =>
      match t with
      | [] => none
      | ']' :: _ => some (n + 1)
      | '[' :: c :: r =>
        if c = ':' || c = '.' || c = '=' then
          match Regex.markedName? c r with
          | some name => go fuel (n + name.length + 4) (r.drop (name.length + 2))
          | none => go fuel (n + 1) (c :: r)
        else go fuel (n + 1) (c :: r)
      | _ :: r => go fuel (n + 1) r

/-- The text up to a mark that is not escaped, and the length of all with the mark.  In a regular
    expression a mark may also stand between brackets. -/
def markedText (mark : Char) (regex : Bool) : (fuel : Nat) → Octets → Option (Octets × Nat)
  | 0, _ => none
  | _, [] => none
  | fuel + 1, '\\' :: c :: t => do
    let (s, n) ← markedText mark regex fuel t
    if c = mark && !(!regex && c = '&') then return (c :: s, n + 2)
    else if c = 'n' && regex then return ('\n' :: s, n + 2)
    else return ('\\' :: c :: s, n + 2)
  | fuel + 1, c :: t =>
    if c = mark then some ([], 1)
    else if c = '\n' && regex then none
    else if c = '[' && regex then do
      let k ← bracketLength t
      let (s, n) ← markedText mark regex fuel (t.drop k)
      return (c :: t.take k ++ s, n + k + 1)
    else do
      let (s, n) ← markedText mark regex fuel t
      return (c :: s, n + 1)

/-! ## Escapes -/

/-- The value of digits in a base. -/
def digitsIn (base : Nat) (t : Octets) : Nat :=
  t.foldl (fun v c => base * v + (Decimal.hexDigit? c).getD 0) 0

/-- The character that an escape stands for, given without its backslash, and its length. -/
def sedEscape? (t : Octets) : Option (Char × Nat) :=
  let coded (base most : Nat) (r : Octets) : Option (Char × Nat) :=
    let digits := (r.take most).takeWhile fun c => (Decimal.hexDigit? c).any (· < base)
    if digits.isEmpty then none else some (Char.ofNat (digitsIn base digits % 256), digits.length + 1)
  match t with
  | 'a' :: _ => some ('\x07', 1)
  | 'f' :: _ => some ('\x0c', 1)
  | 'n' :: _ => some ('\n', 1)
  | 'r' :: _ => some ('\r', 1)
  | 't' :: _ => some ('\t', 1)
  | 'v' :: _ => some ('\x0b', 1)
  | 'c' :: c :: _ => some (Char.ofNat (c.toUpper.toNat ^^^ 64), 2)
  | 'd' :: r => coded 10 3 r
  | 'o' :: r => coded 8 3 r
  | 'x' :: r => coded 16 2 r
  | _ => none

/-- A regular expression with its escapes for characters carried out; `fuel` bounds its length. -/
def sedRegexText : (fuel : Nat) → (inSet : Bool) → Octets → Octets
  | 0, _, t => t
  | _, _, [] => []
  | fuel + 1, inSet, '\\' :: t =>
    match sedEscape? t with
    | some (c, n) =>
      (if c = '\\' && !inSet then ['\\', c] else [c]) ++
        sedRegexText fuel inSet (t.drop n)
    | none =>
      if inSet then '\\' :: sedRegexText fuel inSet t
      else '\\' :: t.take 1 ++ sedRegexText fuel inSet (t.drop 1)
  | fuel + 1, false, '[' :: t =>
    match bracketLength t with
    | some k => '[' :: sedRegexText fuel true (t.take k) ++ sedRegexText fuel false (t.drop k)
    | none => '[' :: sedRegexText fuel false t
  | fuel + 1, inSet, c :: t => c :: sedRegexText fuel inSet t

/-- The matcher of an expression; an empty one is the last one that was used. -/
def sedPattern (extended foldCase byLine : Bool) (t : Octets) : Scan Pattern? := do
  if t.isEmpty then return none
  else
    match Regex.parse { extended } (sedRegexText (2 * t.length + 2) false t) with
    | .ok r => return some (r.matcher { foldCase, byLine })
    | .error m => Scan.fault m

/-- The pieces of a replacement; `fuel` bounds its length. -/
def replacementPieces : (fuel : Nat) → Octets → List ReplacementPiece
  | 0, _ => []
  | _, [] => []
  | fuel + 1, '\\' :: t =>
    match t with
    | [] => [.text ['\\']]
    | c :: r =>
      if c.isDigit then .group (c.toNat - 48) :: replacementPieces fuel r
      else
        match c with
        | 'L' => .case_ .lower :: replacementPieces fuel r
        | 'U' => .case_ .upper :: replacementPieces fuel r
        | 'l' => .case_ .lowerNext :: replacementPieces fuel r
        | 'u' => .case_ .upperNext :: replacementPieces fuel r
        | 'E' => .case_ .keep :: replacementPieces fuel r
        | _ =>
          match sedEscape? t with
          | some (d, n) => .text [d] :: replacementPieces fuel (t.drop n)
          | none => .text [c] :: replacementPieces fuel r
  | fuel + 1, '&' :: t => .group 0 :: replacementPieces fuel t
  | fuel + 1, t =>
    let plain := t.takeWhile fun c => c != '\\' && c != '&'
    .text plain :: replacementPieces fuel (t.drop plain.length)

/-! ## Addresses -/

/-- A regular expression between marks, with the flags behind it. -/
def readAddressPattern (extended : Bool) (mark : Char) : Scan Pattern? := do
  let t := (← get).rest
  match markedText mark true (t.length + 1) t with
  | none =>
    Scan.skip t.length
    Scan.fault "unterminated address regex"
  | some (r, n) =>
    Scan.skip n
    let flags ← Scan.takeWhile fun c => c == 'I' || c == 'M'
    sedPattern extended (flags.contains 'I') (flags.contains 'M') r

/-- A number, which may be missing. -/
def readDigits : Scan (Option Nat) := do
  let digits ← Scan.takeWhile Char.isDigit
  return if digits.isEmpty then none else some (Text.digitsValue digits)

/-- The address at the start of what is left. -/
def readAddress? (extended : Bool) : Scan (Option LineAddress) := do
  match ← Scan.peek with
  | some '$' =>
    Scan.skip 1
    return some .last
  | some '/' =>
    Scan.skip 1
    return some (.matching (← readAddressPattern extended '/'))
  | some '\\' =>
    Scan.skip 1
    match ← Scan.next with
    | some mark => return some (.matching (← readAddressPattern extended mark))
    | none => Scan.fault "unexpected \x60,'"
  | some c =>
    if c = '+' || c = '~' then
      Scan.skip 1
      discard readDigits
      Scan.fault "invalid usage of +N or ~N as first address"
    else
      match ← readDigits with
      | none => return none
      | some n =>
        let t := (← get).rest
        let blanks := (t.takeWhile fun c => c == ' ' || c == '\t').length
        if (t.drop blanks).head? = some '~' then
          Scan.skip (blanks + 1)
          Scan.skipBlanks
          return some (.every n ((← readDigits).getD 0))
        else return some (.line n)
  | none => return none

/-- The end of a range. -/
def readRangeEnd (extended : Bool) : Scan RangeEnd := do
  Scan.skipBlanks
  match ← Scan.peek with
  | some '+' =>
    Scan.skip 1
    return .more ((← readDigits).getD 0)
  | some '~' =>
    Scan.skip 1
    return .multiple ((← readDigits).getD 0)
  | _ =>
    match ← readAddress? extended with
    | some (.line n) => return .line n
    | some (.every n _) => return .line n
    | some .last => return .last
    | some (.matching r) => return .matching r
    | none => Scan.fault "unexpected \x60,'"

/-! ## Commands -/

/-- The end of a command: blanks, and then a mark or nothing. -/
def readCommandEnd : Scan Unit := do
  Scan.skipBlanks
  match ← Scan.peek with
  | none => return ()
  | some c =>
    if c = '\x7d' || c = '#' then return ()
    Scan.skip 1
    if c ≠ '\n' && c ≠ ';' then Scan.fault "extra characters after command"

/-- A text up to the end of its last line, with escapes for blanks carried out; `fuel` bounds its
    length.  A newline behind a backslash belongs to it. -/
def lineText : (fuel : Nat) → Octets → Octets × Nat
  | 0, _ => ([], 0)
  | _, [] => ([], 0)
  | _, '\n' :: _ => ([], 1)
  | fuel + 1, '\\' :: t =>
    match t with
    | [] => ([], 1)
    | c :: r =>
      let (s, n) := lineText fuel r
      let blank := if "afnrtv".toList.contains c then (sedEscape? t).map (·.1) else none
      (blank.getD c :: s, n + 2)
  | fuel + 1, c :: t =>
    let (s, n) := lineText fuel t
    (c :: s, n + 1)

/-- The text that is added by a command. -/
def readAddedText : Scan Octets := do
  Scan.skipBlanks
  match (← get).rest with
  | [] => Scan.fault "expected \\ after \x60a', \x60c' or \x60i'"
  | '\\' :: t =>
    let blanks := (t.takeWhile fun c => c == ' ' || c == '\t').length
    -- What stands behind the backslash on its line is text, its blanks too.
    if (t.drop blanks).head? = some '\n' then Scan.skip (blanks + 2)
    else if (t.drop blanks).isEmpty then Scan.skip (blanks + 1)
    else Scan.skip 1
    let t := (← get).rest
    let (s, n) := lineText (t.length + 1) t
    Scan.skip n
    return if t.isEmpty then [] else s ++ ['\n']
  | t =>
    let (s, n) := lineText (t.length + 1) t
    Scan.skip n
    return s ++ ['\n']

/-- The name of a file up to the end of the line. -/
def readFileName : Scan Octets := do
  Scan.skipBlanks
  let t ← Scan.takeWhile (· != '\n')
  if t.isEmpty then Scan.fault "missing filename in r/R/w/W commands"
  Scan.skip 1
  return t

/-- A label. -/
def readLabel : Scan Octets := do
  Scan.skipBlanks
  Scan.takeWhile fun c => c != '\n' && c != ';' && c != ' ' && c != '\t'

/-- The flags of a substitution; `fuel` bounds their number. -/
def readFlags : (fuel : Nat) → Substitution → (number i m : Bool) → Scan (Substitution × Bool × Bool)
  | 0, s, _, i, m => return (s, i, m)
  | fuel + 1, s, number, i, m => do
    match ← Scan.peek with
    | none => return (s, i, m)
    | some c =>
      if c = '\x7d' || c = '#' then return (s, i, m)
      if c.isDigit then
        let n := (← readDigits).getD 0
        if n = 0 then Scan.fault "number option to \x60s' command may not be zero"
        if number then Scan.fault "multiple number options to \x60s' command"
        readFlags fuel { s with first := n } true i m
      else
        Scan.skip 1
        match c with
        | '\n' | ';' => return (s, i, m)
        | ' ' | '\t' | '\r' => readFlags fuel s number i m
        | 'g' =>
          if s.all then Scan.fault "multiple \x60g' options to \x60s' command"
          readFlags fuel { s with all := true } number i m
        | 'p' =>
          if s.print then Scan.fault "multiple \x60p' options to \x60s' command"
          readFlags fuel { s with print := true } number i m
        | 'i' | 'I' => readFlags fuel s number true m
        | 'm' | 'M' => readFlags fuel s number i true
        | 'e' => readFlags fuel s number i m
        | 'w' => return ({ s with file := some (← readFileName) }, i, m)
        | _ => Scan.fault "unknown option to \x60s'"

/-- The greatest group that a replacement names. -/
def greatestGroup (ps : List ReplacementPiece) : Nat :=
  ps.foldl (fun n p => match p with | .group k => max n k | _ => n) 0

/-- A substitution behind its letter. -/
def readSubstitution (extended : Bool) : Scan SedAction := do
  let unfinished {α : Type} : Scan α := do
    Scan.skip (← get).rest.length
    Scan.fault "unterminated \x60s' command"
  match ← Scan.next with
  | none => unfinished
  | some mark =>
    let t := (← get).rest
    match markedText mark true (t.length + 1) t with
    | none => unfinished
    | some (r, n) =>
      Scan.skip n
      let t := (← get).rest
      match markedText mark false (t.length + 1) t with
      | none => unfinished
      | some (replacement, n) =>
        Scan.skip n
        let pieces := replacementPieces (replacement.length + 1) replacement
        let fuel := (← get).rest.length + 1
        let (s, i, m) ← readFlags fuel { pattern := none, replacement := pieces } false false false
        let pattern ← sedPattern extended i m r
        match pattern with
        | some matcher =>
          if matcher.groups < greatestGroup pieces then
            Scan.fault ("invalid reference \\" ++ toString (greatestGroup pieces) ++
              " on \x60s' command's RHS")
        | none => pure ()
        return .substitute { s with pattern }

/-- The characters of a list for a replacement one by one; `fuel` bounds them. -/
def translateChars : (fuel : Nat) → Octets → Octets
  | 0, _ => []
  | _, [] => []
  | fuel + 1, '\\' :: t =>
    match t with
    | '\\' :: r => '\\' :: translateChars fuel r
    | _ =>
      match sedEscape? t with
      | some (c, n) => c :: translateChars fuel (t.drop n)
      | none => t.take 1 ++ translateChars fuel (t.drop 1)
  | fuel + 1, c :: t => c :: translateChars fuel t

/-- A replacement of characters behind its letter. -/
def readTranslation : Scan SedAction := do
  let unfinished {α : Type} : Scan α := do
    Scan.skip (← get).rest.length
    Scan.fault "unterminated \x60y' command"
  match ← Scan.next with
  | none => unfinished
  | some mark =>
    let t := (← get).rest
    match markedText mark false (t.length + 1) t with
    | none => unfinished
    | some (a, n) =>
      Scan.skip n
      let t := (← get).rest
      match markedText mark false (t.length + 1) t with
      | none => unfinished
      | some (b, n) =>
        Scan.skip n
        let from_ := translateChars (a.length + 1) a
        let into_ := translateChars (b.length + 1) b
        if from_.length ≠ into_.length then
          Scan.fault "strings for \x60y' command are different lengths"
        readCommandEnd
        return .translate from_ into_

/-- The action behind its letter; a group is left open. -/
def readAction (extended : Bool) (c : Char) : Scan SedAction := do
  let plain (a : SedAction) : Scan SedAction := do
    readCommandEnd
    return a
  let counted (f : Option Nat → SedAction) : Scan SedAction := do
    Scan.skipBlanks
    let n ← readDigits
    readCommandEnd
    return f n
  let jump (test : JumpTest) : Scan SedAction := do
    let label ← readLabel
    readCommandEnd
    return .jump test label
  match c with
  | '\x7b' => return .group 0
  | '=' => plain .number
  | 'a' => return .append (← readAddedText)
  | 'i' => return .insert (← readAddedText)
  | 'c' => return .change (← readAddedText)
  | 'b' => jump .always
  | 't' => jump .changed
  | 'T' => jump .unchanged
  | 'd' => plain .delete
  | 'D' => plain .deleteFirst
  | 'F' => plain .name
  | 'g' => plain .get
  | 'G' => plain .getMore
  | 'h' => plain .hold
  | 'H' => plain .holdMore
  | 'l' => counted .list
  | 'n' => plain .next
  | 'N' => plain .nextMore
  | 'p' => plain .print
  | 'P' => plain .printFirst
  | 'q' => counted fun n => .quit (n.getD 0) false
  | 'Q' => counted fun n => .quit (n.getD 0) true
  | 'r' => return .readFile (← readFileName)
  | 'R' => return .readLine (← readFileName)
  | 's' => readSubstitution extended
  | 'v' =>
    discard readLabel
    plain .nothing
  | 'w' => return .write (← readFileName)
  | 'W' => return .writeFirst (← readFileName)
  | 'x' => plain .exchange
  | 'y' => readTranslation
  | 'z' => plain .zap
  | c => Scan.fault ("unknown command: \x60" ++ String.ofList [c] ++ "'")

/-- What has been read of a script: commands, the last one first, labels, and the numbers of groups
    that are open. -/
structure ScriptDraft where
  commands : Array SedCommand := #[]
  labels : List (Octets × Nat) := []
  open_ : List Nat := []

/-- Ends the innermost group. -/
def ScriptDraft.close (d : ScriptDraft) : Option ScriptDraft :=
  match d.open_ with
  | [] => none
  | i :: rest =>
    some { d with
      commands := d.commands.modify i fun c => { c with action := .group d.commands.size }
      open_ := rest }

/-- The command at the start of what is left, added to a draft. -/
def readSedCommand (extended : Bool) (d : ScriptDraft) : Scan ScriptDraft := do
  let start ← readAddress? extended
  Scan.skipBlanks
  let stop ← if start.isSome && (← Scan.peek) = some ',' then (do
      Scan.skip 1
      return some (← readRangeEnd extended))
    else pure none
  Scan.skipBlanks
  let negated := (← Scan.peek) = some '!'
  if negated then
    Scan.skip 1
    Scan.skipBlanks
    if (← Scan.peek) = some '!' then
      Scan.skip 1
      Scan.fault "multiple \x60!'s"
  match ← Scan.next with
  | none => Scan.fault "missing command"
  | some c =>
    match start, stop with
    | some (.line 0), some (.matching _) => pure ()
    | some (.line 0), _ => Scan.fault "invalid usage of line address 0"
    | _, _ => pure ()
    match c with
    | '\x7d' =>
      if start.isSome then Scan.fault "\x7d doesn't want any addresses"
      match d.close with
      | none => Scan.fault "unexpected \x60\x7d'"
      | some d =>
        readCommandEnd
        return d
    | ':' =>
      if start.isSome then Scan.fault ": doesn't want any addresses"
      let label ← readLabel
      if label.isEmpty then Scan.fault "\":\" lacks a label"
      return { d with labels := (label, d.commands.size) :: d.labels }
    | c =>
      if stop.isSome && (c = 'q' || c = 'Q') then Scan.fault "command only uses one address"
      let action ← readAction extended c
      let command : SedCommand := { start, stop, negated, action }
      let open_ := match action with | .group _ => d.commands.size :: d.open_ | _ => d.open_
      return { d with commands := d.commands.push command, open_ }

/-- The commands that are left; `fuel` bounds their number. -/
def readSedCommands (extended : Bool) : (fuel : Nat) → ScriptDraft → Scan ScriptDraft
  | 0, d => return d
  | fuel + 1, d => do
    discard (Scan.takeWhile fun c => c == ' ' || c == '\t' || c == '\n' || c == ';')
    match ← Scan.peek with
    | none => return d
    | some '#' =>
      discard (Scan.takeWhile (· != '\n'))
      readSedCommands extended fuel d
    | some _ => readSedCommands extended fuel (← readSedCommand extended d)

/-- The script that a text stands for, or a fault with its place. -/
def SedScript.read (extended : Bool) (t : Octets) : Except (Nat × Octets) SedScript := do
  let (d, _) ← (readSedCommands extended (t.length + 1) {}).run ⟨t, 0⟩
  if d.open_.isEmpty then return ⟨d.commands, d.labels⟩
  else throw (0, "unmatched \x60\x7b'".toList)

end Retouch.Shell.Utility
