/-
  Searching of lines by regular expressions.
-/
import Retouch.Shell.Matching
import Retouch.Shell.Utility.Files

namespace Retouch.Shell.Utility

/-! ## Patterns -/

/-- How patterns are written. -/
inductive Writing where
  | basic
  | extended
  | literal
deriving DecidableEq

/-- An expression that has to be a whole line or whole words, if that is asked for. -/
def bounded (o : Options) (r : Regex) : Regex :=
  if o.has 'x' then .both (.edge .lineStart) (.both r (.edge .lineEnd))
  else if o.has 'w' then .both (.edge .noWordBefore) (.both r (.edge .noWordAfter))
  else r

/-- The matcher of a pattern. -/
def patternMatcher (o : Options) (w : Writing) (pattern : Octets) : Except String Matcher := do
  let fold := o.has 'i' || o.has 'y'
  let r ← match w with
    | .literal => .ok (Regex.literal pattern)
    | w => Regex.parse { extended := w = .extended, lenient := true } pattern
  return (bounded o r).matcher { foldCase := fold }

/-- The first match among several matchers; of those that start together, the longest. -/
def firstMatch (ms : List Matcher) (t : Array Char) (at_ : Nat) : Option Match :=
  ms.foldl
    (fun best m =>
      match best, m.searchFrom false t (t.size + 2) at_ with
      | none, f => f
      | some b, none => some b
      | some b, some f =>
        if f.start < b.start || (f.start == b.start && b.stop < f.stop) then some f else some b)
    none

/-- The matches with some text, from left to right; `fuel` bounds their number. -/
def properMatches (ms : List Matcher) (t : Array Char) : (fuel : Nat) → (at_ : Nat) → List Match
  | 0, _ => []
  | fuel + 1, at_ =>
    match firstMatch ms t at_ with
    | none => []
    | some f =>
      if f.start = f.stop then
        if f.stop < t.size then properMatches ms t fuel (f.stop + 1) else []
      else f :: properMatches ms t fuel f.stop

/-! ## Lines -/

/-- A line: its text, its number, and where it starts. -/
structure NumberedLine where
  text : Octets
  number : Nat
  offset : Nat
  selected : Bool := false

/-- Lines with their numbers and offsets. -/
def numberLines : (number offset : Nat) → List Octets → List NumberedLine
  | _, _, [] => []
  | n, at_, l :: ls => { text := l, number := n, offset := at_ } :: numberLines (n + 1) (at_ + l.length + 1) ls

/-- Marks the lines that are selected, up to a limit; gives them with the lines left behind the last
    one that is looked at. -/
def selectLines (hits : Octets → Bool) : (limit : Option Nat) → List NumberedLine →
    List NumberedLine × List NumberedLine
  | _, [] => ([], [])
  | limit, l :: ls =>
    if limit = some 0 then ([], l :: ls)
    else
      let selected := hits l.text
      let (marked, rest) := selectLines hits (if selected then limit.map (· - 1) else limit) ls
      ({ l with selected } :: marked, rest)

/-- The lines within a distance before or behind a selected one. -/
def withContext (before after : Nat) (lines : List NumberedLine) : List NumberedLine :=
  let step (near : Nat) (ls : List NumberedLine) : List (NumberedLine × Bool) :=
    (ls.foldl
      (fun (acc, left) l =>
        if l.selected then ((l, true) :: acc, near) else ((l, 0 < left) :: acc, left - 1))
      (([] : List (NumberedLine × Bool)), 0)).1
  -- Each pass turns the lines around.
  let behind := step after lines
  let ahead := step before lines.reverse
  ((behind.reverse.zip ahead).filter fun (a, b) => a.2 || b.2).map fun (a, _) => a.1

/-! ## Searching -/

/-- The options of `grep`. -/
def grepGrammar : Grammar where
  plain := "0123456789EFGPHILRTUVZabchilnoqrsuvwxyz!@"
  valued := "efmABC#$%^"
  optional := "&"
  long := [("extended-regexp", 'E'), ("fixed-strings", 'F'), ("basic-regexp", 'G'), ("perl-regexp", 'P'),
    ("regexp", 'e'), ("file", 'f'), ("ignore-case", 'i'), ("no-ignore-case", '@'), ("invert-match", 'v'),
    ("word-regexp", 'w'), ("line-regexp", 'x'), ("count", 'c'), ("files-without-match", 'L'),
    ("files-with-matches", 'l'), ("max-count", 'm'), ("only-matching", 'o'), ("quiet", 'q'),
    ("silent", 'q'), ("no-messages", 's'), ("byte-offset", 'b'), ("with-filename", 'H'),
    ("no-filename", 'h'), ("label", '#'), ("line-number", 'n'), ("null", 'Z'), ("after-context", 'A'),
    ("before-context", 'B'), ("context", 'C'), ("text", 'a'), ("recursive", 'r'),
    ("dereference-recursive", 'R'), ("include", '$'), ("exclude", '%'), ("exclude-dir", '^'),
    ("no-group-separator", '!'), ("color", '&'), ("colour", '&'), ("null-data", 'z'),
    ("line-buffered", 'u'), ("initial-tab", 'T')]
  status := 2

/-- How `grep` is called. -/
def grepUsage : String := "Usage: grep [OPTION]... PATTERNS [FILE]...\nTry 'grep --help' for more information.\n"

/-- Whether a path is searched when directories are. -/
def isSearched (o : Options) (name : Octets) : Bool :=
  let accepts (p : Octets) : Bool := (Glob.ofMarked (p.map fun c => (c, false))).accepts name
  (!o.has '$' || (o.values '$').any accepts) && !(o.values '%').any accepts

/-- The files to be searched, with the names by which they are shown. -/
def searchedFiles (o : Options) (operands : List Octets) : Utility (List (Octets × Octets)) := do
  let recursive := o.has 'r' || o.has 'R'
  if !recursive then
    return (if operands.isEmpty then [['-']] else operands).map fun p => (p, p)
  let start := if operands.isEmpty then [['.']] else operands
  let lists ← start.mapM fun p => do
    match ← nodeAt p, ← placeOf p with
    | .ok (.directory _), .ok place =>
      let tree := (← get).tree
      let shown : Octets := if operands.isEmpty then [] else p
      let parts := below tree place shown
      let files := parts.filter fun (q, _) =>
        match tree.node? q with
        | some (.file _ _) => true
        | some (.link _) => o.has 'R'
        | _ => false
      let files := files.filter fun (q, _) =>
        isSearched o (q.getLast?.getD []) &&
          !(q.drop place.length).dropLast.any fun n =>
            (o.values '^').any fun g => (Glob.ofMarked (g.map fun c => (c, false))).accepts n
      return files.map fun (q, s) => (Place.path q, s)
    | _, _ => return if isSearched o (lastName p) then [(p, p)] else []
  return lists.flatten

/-- What is shown of a selected line or of one near it. -/
def showLine (o : Options) (ms : List Matcher) (name : Octets) (end_ : Char) (l : NumberedLine) :
    Utility Unit := do
  let mark := if l.selected then ':' else '-'
  let lead (offset : Nat) : Octets :=
    (if name.isEmpty then [] else name ++ [if o.has 'Z' then '\x00' else mark]) ++
      (if o.has 'n' then Text.ofNat l.number ++ [mark] else []) ++
      (if o.has 'b' then Text.ofNat offset ++ [mark] else [])
  if o.has 'o' then
    if l.selected && !o.has 'v' then
      let t := l.text.toArray
      (properMatches ms t (t.size + 1) 0).forM fun f =>
        say (lead (l.offset + f.start) ++ f.text t ++ [end_])
  else say (lead l.offset ++ l.text ++ [end_])

/-- Shows lines, with a mark between those that do not follow each other. -/
def showLines (o : Options) (context : Bool) (show_ : NumberedLine → Utility Unit) :
    (last : Option Nat) → List NumberedLine → Utility Unit
  | _, [] => pure ()
  | last, l :: ls => do
    if context && !o.has '!' && last.any fun n => n + 1 != l.number then say "--\n".toList
    show_ l
    showLines o context show_ (some l.number) ls

/-- A number of lines of context. -/
def contextCount (o : Options) (c : Char) : Utility (Option Nat) := do
  match o.value? c with
  | none => return none
  | some t =>
    match Text.natBelow? (Nat.pow 2 63) t with
    | some n => return some n
    | none => refuse (t ++ ": invalid context length argument".toList) 2

/-- Searches lines. -/
def grepWith (preset : Option Writing) : Utility Unit := do
  let args := (← read).args
  let o ← match sortArgs grepGrammar (args.length + 1) args with
    | .ok o => pure o
    | .error m =>
      complain m 2
      warn grepUsage.toList
      throw ()
  let writings := (o.flags.filter fun f => "EFG".toList.contains f.1).map (·.1)
  if (writings.any (some · != writings.head?)) && preset.isNone then
    refuse "conflicting matchers specified".toList 2
  let writing : Writing := match writings.head?, preset with
    | some 'E', _ => .extended
    | some 'F', _ => .literal
    | some _, _ => .basic
    | none, w => w.getD .basic
  let around ← contextCount o 'C'
  let before ← contextCount o 'B'
  let after ← contextCount o 'A'
  let digits := (o.flags.filter fun f => f.1.isDigit).map (·.1)
  let around := if digits.isEmpty then around else some (Text.digitsValue digits)
  let limit ← match o.value? 'm' with
    | none => pure none
    | some t =>
      match Text.natBelow? (Nat.pow 2 63) t with
      | some n => pure (some n)
      | none =>
        if t.head? = some '-' && (t.drop 1).all Char.isDigit then pure none
        else refuse "invalid max count".toList 2
  -- The patterns come from the options, or are the first operand.
  let mut patterns : List Octets := []
  for (c, v) in o.flags do
    if c = 'e' then patterns := patterns ++ v.splitOnP (· == '\n')
    else if c = 'f' then
      match ← content v with
      | .ok t => patterns := patterns ++ records '\n' t
      | .error fault => refuse (about v fault) 2
  let given := o.has 'e' || o.has 'f'
  if !given then
    match o.operands with
    | [] =>
      warn grepUsage.toList
      setStatus 2
      throw ()
    | p :: _ => patterns := p.splitOnP (· == '\n')
  let operands := if given then o.operands else o.operands.drop 1
  let mut matchers : List Matcher := []
  for p in patterns do
    if writing != .literal && p.take 2 = "[:".toList && (p.reverse.take 2).reverse = ":]".toList then
      refuse "character class syntax is [[:space:]], not [:space:]".toList 2
    if writing == .extended && ("*+?".toList.any fun c => p.head? == some c) then
      warn ("grep: warning: ".toList ++ p.take 1 ++ " at start of expression\n".toList)
    match patternMatcher o writing p with
    | .ok m => matchers := matchers ++ [m]
    | .error m => refuse m.toList 2
  let ms := matchers
  let hits (t : Octets) : Bool :=
    let t := t.toArray
    (ms.any fun m => m.finds t) != o.has 'v'
  let end_ := if o.has 'z' then '\x00' else '\n'
  let recursive := o.has 'r' || o.has 'R'
  let directories ← operands.anyM isDirectory
  let named :=
    match o.last? "Hh" with
    | some c => c == 'H'
    | none => operands.length > 1 || (recursive && (operands.isEmpty || directories))
  let mut hit := false
  let mut failed := false
  let bound := if o.has 'q' || o.has 'l' || o.has 'L' then some (min 1 (limit.getD 1)) else limit
  for (p, shown) in ← searchedFiles o operands do
    if !(hit && o.has 'q') then
      match ← content p with
      | .error fault =>
        failed := true
        if !o.has 's' then complain (about shown fault) 2
      | .ok t =>
        let name := if p = ['-'] then (o.value? '#').getD "(standard input)".toList else shown
        let lines := numberLines 1 0 (if o.has 'z' then records end_ t else bareLines t)
        let (looked, rest) := selectLines hits bound lines
        let count := (looked.filter (·.selected)).length
        if bound = some count && count ≠ 0 then settle
        let found := 0 < count
        if found != o.has 'L' then hit := true
        let binary := t.contains '\x00' && !o.has 'a' && !o.has 'z'
        if o.has 'q' then pure ()
        else if o.has 'l' then
          if found then say (name ++ [if o.has 'Z' then '\x00' else '\n'])
        else if o.has 'L' then
          if !found then say (name ++ [if o.has 'Z' then '\x00' else '\n'])
        else if o.has 'c' then
          say ((if named then name ++ [if o.has 'Z' then '\x00' else ':'] else []) ++
            endLine (Text.ofNat count))
        else if binary then
          if found then warn ("grep: ".toList ++ name ++ ": binary file matches\n".toList)
        else
          let context := (around.isSome || before.isSome || after.isSome)
          let b := (before.getD (around.getD 0))
          let a := (after.getD (around.getD 0))
          let all := if limit.isSome && count ≠ 0 then looked ++ rest.take a else looked
          let lines := if context then withContext b a all else looked.filter (·.selected)
          showLines o context (showLine o ms (if named then name else []) end_) none lines
  setStatus (if hit && (o.has 'q' || !failed) then 0 else if failed then 2 else 1)

/-- Searches lines by basic expressions. -/
def grep : Utility Unit := grepWith none

/-- Searches lines by extended expressions. -/
def egrep : Utility Unit := grepWith (some .extended)

/-- Searches lines for texts. -/
def fgrep : Utility Unit := grepWith (some .literal)

end Retouch.Shell.Utility
