/-
  Reading of scripts.

  The reader goes through a script from left to right with a cursor that counts lines.  Words are
  read part by part in a context, which says where they end and which characters are special.
  Commands are read by descent over the grammar; `readList` closes the circle, since words may hold
  commands.  The content of a here-document is taken out of the text when its operator is met, and an
  alias at the start of a command is replaced in the text.  A script is read one complete command at
  a time (`Cursor.next`), so that what has run may change how the rest is read.
-/
import Retouch.Shell.Script

namespace Retouch.Shell

/-- Where the reading of a script stands.  The lines of here-documents that have been taken out are
    owed to the next line end. -/
structure Cursor where
  rest : Octets
  line : Nat := 1
  owed : Nat := 0
  aliases : List (Octets × Octets) := []
  /-- The aliases whose text is being read, with the length of what follows it. -/
  active : List (Octets × Nat) := []

/-- A step of reading. -/
abbrev Read := StateT Cursor (Except SyntaxFault)

namespace Read

/-! ## Characters -/

/-- What is still to be read. -/
def rest : Read Octets := return (← get).rest

/-- Gives up with a fault at the current line. -/
def fail {α : Type} (message : String) : Read α := fun cursor =>
  .error ⟨cursor.line, Octets.ofString ("Syntax error: " ++ message)⟩

/-- The cursor after one character. -/
def advance (cursor : Cursor) (c : Char) : Cursor :=
  if c = '\n' then
    { cursor with rest := cursor.rest.drop 1, line := cursor.line + 1 + cursor.owed, owed := 0 }
  else { cursor with rest := cursor.rest.drop 1 }

/-- Goes over `n` characters. -/
def skip (n : Nat) : Read Unit := modify fun cursor => (cursor.rest.take n).foldl advance cursor

/-- The text up to the first character that does not satisfy `p`. -/
def takeWhile (p : Char → Bool) : Read Octets := do
  let run := (← rest).takeWhile p
  skip run.length
  return run

/-- Goes over `lead` if the rest starts with it. -/
def accept (lead : Octets) : Read Bool := do
  if lead.isPrefixOf (← rest) then
    skip lead.length
    return true
  else return false

/-- The results of a step until it has none; `fuel` bounds their number. -/
def many {α : Type} (step : Read (Option α)) : (fuel : Nat) → Read (List α)
  | 0 => return []
  | fuel + 1 => do
    match ← step with
    | none => return []
    | some a => return a :: (← many step fuel)

end Read

open Read

/-! ## Tokens -/

/-- The quote for the output of a command. -/
def backquote : Char := '\x60'

/-- Whether a character may stand in the name of a variable. -/
def isNameChar (c : Char) : Bool := Text.isNameStart c || c.isDigit

/-- Whether a text is the name of a variable. -/
def isName (t : Octets) : Bool :=
  match t with
  | [] => false
  | c :: r => Text.isNameStart c && r.all isNameChar

/-- Parameters whose name is a single sign. -/
def isSign (c : Char) : Bool := "@*#?-$!".toList.contains c

/-- Whether a character ends a word that is not quoted. -/
def isDelimiter (c : Char) : Bool := " \t\n;&|<>()".toList.contains c

/-- Words with a meaning at the start of a command. -/
def reserved : List String :=
  ["if", "then", "else", "elif", "fi", "while", "until", "for", "do", "done", "case", "esac",
    "\x7b", "\x7d", "!", "in"]

/-- Reserved words that end a list of commands. -/
def closing : List String := ["then", "else", "elif", "fi", "do", "done", "esac", "\x7d"]

/-- The reserved word at the start of a text. -/
def keyword? (t : Octets) : Option String :=
  reserved.find? fun k => k.toList == t.takeWhile fun c => !isDelimiter c

/-- The operator at the start of a text. -/
def operator? (t : Octets) : Option String :=
  ["&&", "||", ";;", ";", "&", "|", "(", ")"].find? fun o => o.toList.isPrefixOf t

/-- Blanks, comments and joined lines at the start of a text are left out. -/
def skipBlanks : Read Unit := do
  let step : Read (Option Unit) := do
    match ← rest with
    | ' ' :: _ => return some (← skip 1)
    | '\t' :: _ => return some (← skip 1)
    | '\\' :: '\n' :: _ => return some (← skip 2)
    | '#' :: r => return some (← skip (1 + (r.takeWhile (· != '\n')).length))
    | _ => return none
  discard (many step ((← rest).length + 1))

/-- As `skipBlanks`, and line ends too. -/
def skipLines : Read Unit := do
  let step : Read (Option Unit) := do
    skipBlanks
    if ← accept ['\n'] then return some () else return none
  discard (many step ((← rest).length + 1))

/-- The name of what comes next, as faults give it. -/
def nextName : Read String := do
  let t ← rest
  match t, operator? t, keyword? t with
  | [], _, _ => return "end of file"
  | '\n' :: _, _, _ => return "newline"
  | '<' :: _, _, _ => return "redirection"
  | '>' :: _, _, _ => return "redirection"
  | _, some o, _ => return "\"" ++ o ++ "\""
  | _, none, some k => return "\"" ++ k ++ "\""
  | _, none, none => return "word"

/-- Gives up at the end of the text. -/
def failAtEnd {α : Type} (message : String) : Read α := do
  skip (← rest).length
  fail message

/-- What comes next is not what the grammar asks for.  A line end has already been read then. -/
def unexpected {α : Type} (wanted : Option String) : Read α := do
  skipBlanks
  let name ← nextName
  discard (accept ['\n'])
  match wanted with
  | none => fail (name ++ " unexpected")
  | some w => fail (name ++ " unexpected (expecting \"" ++ w ++ "\")")

/-! ## Words -/

/-- Where a word stands. -/
inductive Context where
  | bare
  /-- Between double quotes. -/
  | double
  /-- Between braces, after the operator of a parameter. -/
  | brace (quoted : Bool)
  /-- A text of its own, such as a here-document. -/
  | whole
deriving Repr, DecidableEq

namespace Context

/-- Whether characters stand for themselves. -/
def quoted : Context → Bool
  | bare => false
  | brace q => q
  | double | whole => true

/-- Whether a character ends the word. -/
def stops (ctx : Context) (c : Char) : Bool :=
  match ctx with
  | bare => isDelimiter c
  | double => c == '"'
  | brace _ => c == '\x7d'
  | whole => false

/-- Whether a character is more than itself. -/
def special (ctx : Context) (c : Char) : Bool :=
  ctx.stops c || c == '\\' || c == '$' || c == backquote || (c == '"' && ctx != whole) ||
    (c == '\'' && !ctx.quoted)

/-- Whether a backslash takes the meaning of a character away. -/
def escapes (ctx : Context) (c : Char) : Bool :=
  !ctx.quoted || c == '$' || c == backquote || c == '\\' || (c == '"' && ctx != whole) ||
    (c == '\x7d' && ctx == brace true)

end Context

/-- The text of an arithmetic expression up to the two parentheses that close it; `depth` are the
    parentheses open inside. -/
def arithmeticText? : (depth : Nat) → Octets → Option Octets
  | 0, ')' :: ')' :: _ => some []
  | _, [] => none
  | depth, c :: t =>
    let inside := if c = '(' then depth + 1 else if c = ')' then depth - 1 else depth
    (arithmeticText? inside t).map (c :: ·)

/-- The script between backquotes, the first of which has been read, and the length of its text. -/
def backquoted? (quoted : Bool) : Octets → Option (Octets × Nat)
  | [] => none
  | '\\' :: c :: t =>
    if c == '$' || c == backquote || c == '\\' || (quoted && c == '"') then
      (backquoted? quoted t).map fun (s, n) => (c :: s, n + 2)
    else (backquoted? quoted t).map fun (s, n) => ('\\' :: c :: s, n + 2)
  | c :: t =>
    if c == backquote then some ([], 1)
    else (backquoted? quoted t).map fun (s, n) => (c :: s, n + 1)

/-- The name of the parameter at the start of a text, as it may stand between braces. -/
def parameterName (t : Octets) : Octets :=
  match t with
  | [] => []
  | c :: _ =>
    if Text.isNameStart c then t.takeWhile isNameChar
    else if c.isDigit then t.takeWhile Char.isDigit
    else if isSign c then [c]
    else []

/-- The text ends between the braces of a parameter. -/
def unclosed {α : Type} (quoted : Bool) : Read α :=
  fail (if quoted then "Unterminated quoted string" else "Missing '\x7d'")

/-- Goes over a character that does not belong to a parameter; a line end does not count there. -/
def swallow : Read Unit := modify fun cursor => { cursor with rest := cursor.rest.drop 1 }

/-- The rest of a parameter between braces, the first of which has been read. -/
def readBraced (inner : Context → Read Word) (quoted : Bool) : Read Part := do
  let close : Read Unit := do
    if ← accept ['\x7d'] then return () else unclosed quoted
  let t ← rest
  match t with
  | '#' :: c :: r =>
    let name := parameterName (c :: r)
    if c ≠ '\x7d' ∧ name ≠ [] ∧ (c :: r)[name.length]? = some '\x7d' then
      skip (1 + name.length)
      close
      return .value name .length quoted
  | _ => pure ()
  let name := parameterName t
  skip name.length
  let word (ctx : Context) (f : Word → Change) : Read Part := do
    let w ← inner ctx
    close
    return .value name (f w) quoted
  match ← rest with
  | ':' :: '-' :: _ => skip 2; word (.brace quoted) (.fallback true)
  | ':' :: '=' :: _ => skip 2; word (.brace quoted) (.assign true)
  | ':' :: '?' :: _ => skip 2; word (.brace quoted) (.require true)
  | ':' :: '+' :: _ => skip 2; word (.brace quoted) (.replace true)
  | '-' :: _ => skip 1; word (.brace quoted) (.fallback false)
  | '=' :: _ => skip 1; word (.brace quoted) (.assign false)
  | '?' :: _ => skip 1; word (.brace quoted) (.require false)
  | '+' :: _ => skip 1; word (.brace quoted) (.replace false)
  | '%' :: '%' :: _ => skip 2; word (.brace false) (.cutEnd true)
  | '%' :: _ => skip 1; word (.brace false) (.cutEnd false)
  | '#' :: '#' :: _ => skip 2; word (.brace false) (.cutStart true)
  | '#' :: _ => skip 1; word (.brace false) (.cutStart false)
  | '\x7d' :: _ => close; return .value name (if name.isEmpty then .unknown else .none) quoted
  | ':' :: _ =>
    skip 1
    swallow
    word (.brace quoted) fun _ => .unknown
  | _ =>
    swallow
    word (.brace quoted) fun _ => .unknown

/-- Reads some text on its own, from the current line on. -/
def within {α : Type} (text : Octets) (step : Read α) : Read α := do
  let cursor ← get
  match step.run { rest := text, line := cursor.line, aliases := cursor.aliases } with
  | .ok (a, _) => return a
  | .error fault => throw fault

/-- What a dollar sign that has been read introduces. -/
def readDollar (list : Read (List Command)) (inner : Context → Read Word) (quoted : Bool) :
    Read Part := do
  match ← rest with
  | '(' :: '(' :: t =>
    match arithmeticText? 0 t with
    | none => failAtEnd "Missing '))'"
    | some text =>
      skip (text.length + 4)
      return .number (← within text (inner .whole)) quoted
  | '(' :: _ =>
    skip 1
    let commands ← list
    if ← accept [')'] then return .output commands quoted else unexpected (some ")")
  | '\x7b' :: _ =>
    skip 1
    readBraced inner quoted
  | c :: _ =>
    if Text.isNameStart c then
      return .value (← takeWhile isNameChar) .none quoted
    else if c.isDigit || isSign c then
      skip 1
      return .value [c] .none quoted
    else return .text ['$'] quoted
  | [] => return .text ['$'] quoted

/-- The parts that start with a special character. -/
def readSpecial (list : Read (List Command)) (inner : Context → Read Word) (ctx : Context)
    (c : Char) : Read Word := do
  skip 1
  let t ← rest
  if c == '\\' then
    match t with
    | [] => return [.text ['\\'] true]
    | d :: _ =>
      if d = '\n' then
        skip 1
        return []
      else if ctx.escapes d then
        skip 1
        return [.text [d] true]
      else return [.text ['\\'] true]
  else if c == '\'' then
    let text ← takeWhile (· != '\'')
    if ← accept ['\''] then return [.text text true] else fail "Unterminated quoted string"
  else if c == '"' then
    let word ← inner .double
    if ← accept ['"'] then return .text [] true :: word else fail "Unterminated quoted string"
  else if c == backquote then
    match backquoted? ctx.quoted t with
    | none => failAtEnd "EOF in backquote substitution"
    | some (text, length) =>
      skip length
      return [.output (← within text list) ctx.quoted]
  else return [← readDollar list inner ctx.quoted]

/-- A word in a context; `fuel` bounds its length. -/
def readParts (list : Read (List Command)) : (fuel : Nat) → Context → Read Word
  | 0, _ => return []
  | fuel + 1, ctx => do
    match ← rest with
    | [] =>
      match ctx with
      | .double => fail "Unterminated quoted string"
      | .brace quoted => unclosed quoted
      | _ => return []
    | c :: _ =>
      if ctx.stops c then return []
      else if ctx.special c then
        let part ← readSpecial list (readParts list fuel) ctx c
        return part ++ (← readParts list fuel ctx)
      else
        let text ← takeWhile (fun c => !ctx.special c)
        return .text text ctx.quoted :: (← readParts list fuel ctx)

/-- A word outside of quotes. -/
def readWord (list : Read (List Command)) : Read Word := do
  let word ← readParts list ((← rest).length + 1) .bare
  if word.isEmpty then unexpected none else return word

/-! ## Redirections -/

/-- The text of a word that is compared as it is written, and whether some of it is quoted. -/
def bareText (word : Word) : Octets × Bool :=
  (word.flatMap fun p => match p with | .text t _ => t | _ => [],
    word.any fun p => match p with | .text _ q => q | _ => false)

/-- The lines of a here-document up to its delimiter, and what follows; with `tabs`, the tabs at the
    start of lines are left out. -/
def hereLines (tabs : Bool) (delimiter : Octets) : List Octets → List Octets × List Octets
  | [] => ([], [])
  | l :: ls =>
    let l := if tabs then l.dropWhile (· == '\t') else l
    if (Text.dropSuffix? ['\n'] l).getD l = delimiter then ([], ls)
    else
      let (body, after) := hereLines tabs delimiter ls
      (l :: body, after)

/-- The content of the here-document whose operator has been read. -/
def readHere (list : Read (List Command)) (tabs : Bool) : Read Word := do
  skipBlanks
  let (delimiter, quoted) := bareText (← readWord list)
  let cursor ← get
  let tail := cursor.rest.takeWhile (· != '\n')
  let lines := Text.lines (cursor.rest.drop (tail.length + 1))
  let (body, after) := hereLines tabs delimiter lines
  let content := body.flatten
  set { cursor with
    rest := tail ++ '\n' :: after.flatten
    owed := cursor.owed + (lines.length - after.length) }
  if quoted then return [.text content true]
  else within content (readParts list (content.length + 1) .whole)

/-- The redirection at the cursor, if there is one. -/
def readRedirection? (list : Read (List Command)) : Read (Option Redirection) := do
  skipBlanks
  let t ← rest
  let digits := t.takeWhile Char.isDigit
  let fd (default : Nat) : Nat := if digits.isEmpty then default else Text.digitsValue digits
  let path (f : Word → Redirection) (operator : Nat) : Read (Option Redirection) := do
    skip (digits.length + operator)
    skipBlanks
    return some (f (← readWord list))
  match t.drop digits.length with
  | '<' :: '<' :: '-' :: _ =>
    skip (digits.length + 3)
    return some (.here (fd 0) (← readHere list true))
  | '<' :: '<' :: _ =>
    skip (digits.length + 2)
    return some (.here (fd 0) (← readHere list false))
  | '<' :: '&' :: _ => path (.copy (fd 0)) 2
  | '<' :: '>' :: _ => path (.update (fd 0)) 2
  | '<' :: _ => path (.input (fd 0)) 1
  | '>' :: '>' :: _ => path (.output (fd 1) true false) 2
  | '>' :: '&' :: _ => path (.copy (fd 1)) 2
  | '>' :: '|' :: _ => path (.output (fd 1) false true) 2
  | '>' :: _ => path (.output (fd 1) false false) 1
  | _ => return none

/-- The redirections at the cursor. -/
def readRedirections (list : Read (List Command)) : Read (List Redirection) := do
  many (readRedirection? list) ((← rest).length + 1)

/-! ## Aliases -/

/-- The word at the start of a text, if it is written without any quoting. -/
def plainWord? (t : Octets) : Option Octets :=
  let word := t.takeWhile fun c => !isDelimiter c
  let quoting (c : Char) : Bool := c == '\'' || c == '"' || c == '\\' || c == '$' || c == backquote
  if word.isEmpty || word.any quoting then none else some word

/-- Replaces an alias at the cursor by its text, and what that starts with, and so on; a reserved word
    is none.  `fuel` bounds the aliases. -/
def expandAliases : (fuel : Nat) → Read Unit
  | 0 => return ()
  | fuel + 1 => do
    skipBlanks
    let cursor ← get
    let active := cursor.active.filter fun a => a.2 < cursor.rest.length
    match plainWord? cursor.rest with
    | none => return ()
    | some word =>
      if (keyword? cursor.rest).isSome || active.any (·.1 == word) then return ()
      else
        match cursor.aliases.find? (·.1 == word) with
        | none => return ()
        | some (_, text) =>
          let after := cursor.rest.drop word.length
          set { cursor with rest := text ++ after, active := (word, after.length) :: active }
          expandAliases fuel

/-- Replaces the aliases at the cursor. -/
def readAliases : Read Unit := do
  let n := (← get).aliases.length
  if n ≠ 0 then expandAliases (n + 1)

/-- Goes over blanks after a word of a command.  Where the text of an alias ends by them, the next
    word may be an alias too. -/
def skipToWord : Read Unit := do
  let before := (← rest).length
  skipBlanks
  let now := (← rest).length
  if (← get).active.any fun a => a.2 < before && now ≤ a.2 then readAliases

/-! ## Simple commands -/

/-- What a simple command is made of. -/
inductive Item where
  | assignment (name : Octets) (word : Word)
  | word (word : Word)
  | redirection (r : Redirection)

/-- The items of a simple command; a word ends the assignments.  `fuel` bounds their number. -/
def readItems (list : Read (List Command)) : (fuel : Nat) → (started : Bool) → Read (List Item)
  | 0, _ => return []
  | fuel + 1, started => do
    if started then skipToWord else readAliases
    match ← readRedirection? list with
    | some r => return .redirection r :: (← readItems list fuel started)
    | none =>
      let t ← rest
      let name := t.takeWhile isNameChar
      if t.isEmpty || (operator? t).isSome || t.head? == some '\n' then return []
      else if !started && isName name && t[name.length]? == some '=' then
        skip (name.length + 1)
        let word ← readParts list (t.length + 1) .bare
        return .assignment name word :: (← readItems list fuel false)
      else
        let word ← readWord list
        if !started && (← rest).head? == some '(' then return [.word word]
        else return .word word :: (← readItems list fuel true)

/-- A simple command from its items. -/
def Command.ofItems (line : Nat) (items : List Item) : Command :=
  .simple line
    (items.filterMap fun | .assignment n w => some (n, w) | _ => none)
    (items.filterMap fun | .word w => some w | _ => none)
    (items.filterMap fun | .redirection r => some r | _ => none)

/-! ## Compound commands -/

/-- Goes over a reserved word that has to come next. -/
def expect (k : String) : Read Unit := do
  skipLines
  if keyword? (← rest) = some k then skip k.length else unexpected (some k)

/-- A list of commands, as one. -/
def readBlock (list : Read (List Command)) : Read Command := do
  let commands ← list
  if commands.isEmpty && !(← rest).isEmpty then unexpected none else return .sequence commands

/-- The condition and the body of a clause. -/
def readClause (list : Read (List Command)) : Read (Command × Command) := do
  let condition ← readBlock list
  expect "then"
  return (condition, ← readBlock list)

/-- A conditional after its first word. -/
def readBranch (list : Read (List Command)) : Read Command := do
  let first ← readClause list
  let more : Read (Option (Command × Command)) := do
    if keyword? (← rest) = some "elif" then
      skip 4
      return some (← readClause list)
    else return none
  let others ← many more ((← rest).length + 1)
  let otherwise ← (do
    if keyword? (← rest) = some "else" then
      skip 4
      return some (← readBlock list)
    else return none : Read (Option Command))
  expect "fi"
  return .branch (first :: others) otherwise

/-- A body between `do` and `done`. -/
def readBody (list : Read (List Command)) : Read Command := do
  expect "do"
  let body ← readBlock list
  expect "done"
  return body

/-- A loop over words after its first word. -/
def readEach (list : Read (List Command)) : Read Command := do
  let line := (← get).line
  skipBlanks
  let name ← takeWhile isNameChar
  if !isName name then fail "Bad for loop variable"
  skipLines
  if keyword? (← rest) = some "in" then
    skip 2
    let step : Read (Option Word) := do
      skipBlanks
      let t ← rest
      if t.isEmpty || isDelimiter (t.head?.getD ' ') then return none
      else return some (← readWord list)
    let words ← many step ((← rest).length + 1)
    if !((← accept [';']) || (← accept ['\n'])) then unexpected none
    return .each line name (some words) (← readBody list)
  else
    discard (accept [';'])
    return .each line name none (← readBody list)

/-- A pattern of a clause; any sign may stand in its place. -/
def readPattern (list : Read (List Command)) : Read Word := do
  skipBlanks
  let t ← rest
  match operator? t with
  | some o =>
    skip o.length
    return []
  | none => if t.isEmpty || (← accept ['\n']) then return [] else readWord list

/-- The patterns of a clause up to the parenthesis after them. -/
def readPatterns (list : Read (List Command)) : Read (List Word) := do
  skipBlanks
  discard (accept ['('])
  let first ← readPattern list
  let step : Read (Option Word) := do
    skipBlanks
    if ← accept ['|'] then return some (← readPattern list) else return none
  let others ← many step ((← rest).length + 1)
  if ← accept [')'] then return first :: others else unexpected (some ")")

/-- A choice by patterns after its first word. -/
def readChoice (list : Read (List Command)) : Read Command := do
  let line := (← get).line
  skipBlanks
  let word ← readWord list
  expect "in"
  let step : Read (Option (List Word × Command)) := do
    skipLines
    if keyword? (← rest) = some "esac" then return none
    let patterns ← readPatterns list
    let body ← list
    skipLines
    if !(← accept [';', ';']) then
      if keyword? (← rest) ≠ some "esac" then unexpected (some ";;")
    return some (patterns, .sequence body)
  let clauses ← many step ((← rest).length + 1)
  expect "esac"
  return .choice line word clauses

/-- A compound command, if one starts here. -/
def readCompound? (list : Read (List Command)) : Read (Option Command) := do
  readAliases
  skipBlanks
  let t ← rest
  let line := (← get).line
  let redirected (c : Command) (f : Command → List Redirection → Command) : Read (Option Command) := do
    return some (f c (← readRedirections list))
  let plain (c : Command) : Read (Option Command) := do
    match ← readRedirections list with
    | [] => return some c
    | rs => return some (.group line c rs)
  match keyword? t with
  | some "if" => skip 2; plain (← readBranch list)
  | some "while" =>
    skip 5
    let condition ← readBlock list
    plain (.loop true condition (← readBody list))
  | some "until" =>
    skip 5
    let condition ← readBlock list
    plain (.loop false condition (← readBody list))
  | some "for" => skip 3; plain (← readEach list)
  | some "case" => skip 4; plain (← readChoice list)
  | some "\x7b" =>
    skip 1
    let body ← readBlock list
    expect "\x7d"
    redirected body (.group line)
  | _ =>
    if ← accept ['('] then
      let body ← readBlock list
      skipLines
      if ← accept [')'] then redirected body (.subshell line) else unexpected (some ")")
    else return none

/-- The items of a simple command, of which there has to be one. -/
def readSimple (list : Read (List Command)) : Read (List Item) := do
  let t ← rest
  match keyword? t with
  | some k => if k ≠ "in" then unexpected none
  | none => pure ()
  let items ← readItems list (t.length + 1) false
  if items.isEmpty then unexpected none else return items

/-- A command of a pipeline. -/
def readCommand (list : Read (List Command)) : Read Command := do
  match ← readCompound? list with
  | some c => return c
  | none =>
    let line := (← get).line
    match ← readSimple list with
    | [.word w] =>
      skipBlanks
      if ← accept ['('] then
        skipBlanks
        if !(← accept [')']) then unexpected (some ")")
        skipLines
        match ← readCompound? list with
        | some body => return .define (bareText w).1 body
        | none =>
          let start := (← get).line
          return .define (bareText w).1 (Command.ofItems start (← readSimple list))
      else return Command.ofItems line [.word w]
    | items => return Command.ofItems line items

/-! ## Lists -/

/-- A pipeline, which may be negated. -/
def readPipeline (list : Read (List Command)) : Read Command := do
  skipBlanks
  let negated := keyword? (← rest) == some "!"
  if negated then
    skip 1
    skipBlanks
  let first ← readCommand list
  let step : Read (Option Command) := do
    skipBlanks
    if operator? (← rest) = some "|" then
      skip 1
      skipLines
      return some (← readCommand list)
    else return none
  let others ← many step ((← rest).length + 1)
  let line := if others.isEmpty then first else .pipeline (first :: others)
  return if negated then .negation line else line

/-- Pipelines joined by `&&` and `||`, from left to right. -/
def readChain (list : Read (List Command)) : Read Command := do
  let first ← readPipeline list
  let step : Read (Option (Bool × Command)) := do
    skipBlanks
    match operator? (← rest) with
    | some "&&" => skip 2; skipLines; return some (true, ← readPipeline list)
    | some "||" => skip 2; skipLines; return some (false, ← readPipeline list)
    | _ => return none
  let others ← many step ((← rest).length + 1)
  return others.foldl (fun c (both, d) => if both then .both c d else .either c d) first

/-- Whether a list of commands ends here. -/
def atClose : Read Bool := do
  let t ← rest
  return t.isEmpty || t.head? == some ')' || operator? t == some ";;" ||
    (keyword? t).any closing.contains

/-- One chain of a list with the sign after it; none if the list ends here. -/
def readMember? (list : Read (List Command)) (lines : Bool) : Read (Option Command) := do
  if lines then skipLines else skipBlanks
  if ← atClose then return none
  else if !lines && (← rest).head? == some '\n' then return none
  else
    let chain ← readChain list
    skipBlanks
    match operator? (← rest), (← rest).head? with
    | some ";", _ => skip 1; return some chain
    | some "&", _ => skip 1; return some (.background chain)
    | _, some '\n' => return some chain
    | _, _ => if ← atClose then return some chain else unexpected none

/-- The commands up to the end of the list that they stand in; `depth` bounds the nesting. -/
def readList : (depth : Nat) → Read (List Command)
  | 0 => fail "too deep"
  | depth + 1 => do
    many (readMember? (readList depth) true) ((← rest).length + 1)

/-- How deep commands may be nested. -/
def nesting : Nat := 1000

/-- The commands of the next line that has some; none at the end. -/
def readCompleteCommand : Read (Option Command) := do
  skipLines
  if (← rest).isEmpty then return none
  let commands ← many (readMember? (readList nesting) false) ((← rest).length + 1)
  if !(← rest).isEmpty && (← rest).head? ≠ some '\n' then unexpected none
  return some (.sequence commands)

/-- The next complete command, and the cursor after it; none at the end. -/
def Cursor.next (cursor : Cursor) : Except SyntaxFault (Option (Command × Cursor)) :=
  match readCompleteCommand.run cursor with
  | .error fault => .error fault
  | .ok (none, _) => .ok none
  | .ok (some command, cursor) => .ok (some (command, cursor))

end Retouch.Shell
