/-
  Regular expressions of `grep`, `sed`, `awk` and `expr`, in their basic and extended spelling.

  A spelling is cut into signs, and the signs are read as an expression.  The utilities differ in
  what they do about a sign that has no meaning where it stands (`Spelling`).
-/
import Retouch.Shell.Glob

namespace Retouch.Shell

/-- A condition on a place in a text. -/
inductive Edge where
  | lineStart
  | lineEnd
  | textStart
  | textEnd
  | wordStart
  | wordEnd
  | wordEdge
  | notWordEdge
  /-- No character of a word stands in front. -/
  | noWordBefore
  /-- No character of a word follows. -/
  | noWordAfter
deriving Repr, DecidableEq

/-- A sign of an expression. -/
inductive RegexSign where
  | char (c : Char)
  | any
  | among (negated : Bool) (ranges : List (Char × Char))
  | times (least : Nat) (most : Option Nat)
  | opening
  | closing
  | bar
  | edge (e : Edge)
  | back (group : Nat)
deriving Repr, DecidableEq

/-- A regular expression. -/
inductive Regex where
  | empty
  | char (c : Char)
  | any
  | among (negated : Bool) (ranges : List (Char × Char))
  | edge (e : Edge)
  | both (a b : Regex)
  | either (a b : Regex)
  | times (least : Nat) (most : Option Nat) (r : Regex)
  | group (index : Nat) (r : Regex)
  /-- The text of a group once more. -/
  | back (group : Nat)
deriving Repr

/-- How expressions are written. -/
structure Spelling where
  /-- Parentheses, bars and braces have a meaning without a backslash. -/
  extended : Bool := false
  /-- A sign without a meaning is left out or stands for itself. -/
  lenient : Bool := false
  /-- Backslashes have a meaning between brackets. -/
  setEscapes : Bool := false
  /-- Braces give bounds. -/
  bounds : Bool := true

namespace Regex

/-! ## Signs -/

/-- The greatest bound of a repetition. -/
def boundLimit : Nat := 32767

/-- The bounds of a repetition up to the brace that closes it, and the length of their text; none if
    they are not well-formed. -/
def readBounds? (close t : Octets) : Option (RegexSign × Nat) :=
  let low := t.takeWhile Char.isDigit
  let t' := t.drop low.length
  if close.isPrefixOf t' ∧ !low.isEmpty then
    some (.times (Text.digitsValue low) (some (Text.digitsValue low)), low.length + close.length)
  else
    match t' with
    | ',' :: r =>
      let high := r.takeWhile Char.isDigit
      if close.isPrefixOf (r.drop high.length) then
        some (.times (Text.digitsValue low)
          (if high.isEmpty then none else some (Text.digitsValue high)),
          low.length + 1 + high.length + close.length)
      else none
    | _ => none

/-- A repetition with bounds, after its opening brace. -/
def readRepetition (s : Spelling) (t : Octets) : Except String (RegexSign × Nat) :=
  let close : Octets := if s.extended then ['\x7d'] else ['\\', '\x7d']
  match readBounds? close t with
  | some (.times least most, n) =>
    if most.any (· < least) then .error "Invalid content of \\\x7b\\\x7d"
    else if boundLimit < max least (most.getD 0) then .error "Regular expression too big"
    else .ok (.times least most, n)
  | some found => .ok found
  | none =>
    if s.extended && s.lenient then .ok (.char '\x7b', 0)
    else if t.contains '\x7d' then .error "Invalid content of \\\x7b\\\x7d"
    else .error "Unmatched \\\x7b"

/-- The characters of words. -/
def wordRanges : List (Char × Char) := [('a', 'z'), ('A', 'Z'), ('0', '9'), ('_', '_')]

/-- The sign of an escaped character, and the number of characters after the backslash. -/
def escaped (s : Spelling) (t : Octets) : Except String (RegexSign × Nat) :=
  match t with
  | [] => .error "Trailing backslash"
  | c :: r =>
    let one (sign : RegexSign) : Except String (RegexSign × Nat) := .ok (sign, 1)
    match c, s.extended with
    | '(', false => one .opening
    | ')', false => one .closing
    | '|', false => one .bar
    | '+', false => one (.times 1 none)
    | '?', false => one (.times 0 (some 1))
    | '\x7b', false => do
      let (sign, n) ← readRepetition s r
      return (sign, n + 1)
    | 'w', _ => one (.among false wordRanges)
    | 'W', _ => one (.among true wordRanges)
    | 's', _ => one (.among false (Glob.classRanges "space".toList))
    | 'S', _ => one (.among true (Glob.classRanges "space".toList))
    | 'b', _ => one (.edge .wordEdge)
    | 'B', _ => one (.edge .notWordEdge)
    | '<', _ => one (.edge .wordStart)
    | '>', _ => one (.edge .wordEnd)
    | '\x60', _ => one (.edge .textStart)
    | '\'', _ => one (.edge .textEnd)
    | _, _ => if '1' ≤ c ∧ c ≤ '9' then one (.back (c.toNat - 48)) else one (.char c)

/-! ## Sets -/

/-- Names of classes of characters. -/
def classNames : List String :=
  ["alpha", "digit", "alnum", "upper", "lower", "space", "blank", "punct", "xdigit", "cntrl", "graph",
    "print"]

/-- The message about a set that is not closed. -/
def openSet : String := "Unmatched [, [^, [:, [., or [="

/-- What stands between an opening bracket with a mark and the mark with a closing bracket. -/
def markedName? (mark : Char) : Octets → Option Octets
  | a :: b :: t => if a = mark ∧ b = ']' then some [] else (markedName? mark (b :: t)).map (a :: ·)
  | _ => none

/-- One end of a range in a set, and the length of its text. -/
def setChar (s : Spelling) (t : Octets) : Except String (Char × Nat) :=
  match t with
  | [] => .error openSet
  | '[' :: mark :: r =>
    if mark = '.' ∨ mark = '=' then
      match markedName? mark r with
      | some [c] => .ok (c, 5)
      | some _ => .error "Invalid collation character"
      | none => .error openSet
    else .ok ('[', 1)
  | '\\' :: c :: _ =>
    if s.setEscapes then
      match c with
      | 'n' => .ok ('\n', 2)
      | 't' => .ok ('\t', 2)
      | 'r' => .ok ('\r', 2)
      | 'f' => .ok ('\x0c', 2)
      | 'v' => .ok ('\x0b', 2)
      | 'a' => .ok ('\x07', 2)
      | _ => .ok (c, 2)
    else .ok ('\\', 1)
  | c :: _ => .ok (c, 1)

/-- The ranges of a set up to the bracket that closes it, and the number of characters they take;
    `fuel` bounds that number. -/
def readSet (s : Spelling) : (fuel : Nat) → (first : Bool) → Octets →
    Except String (List (Char × Char) × Nat)
  | 0, _, _ => .error openSet
  | _, _, [] => .error openSet
  | fuel + 1, first, c :: t =>
    if c = ']' ∧ !first then .ok ([], 1)
    else
      match c, t with
      | '[', ':' :: r =>
        match markedName? ':' r with
        | some name =>
          if classNames.any (·.toList == name) then do
            let (rs, n) ← readSet s fuel false (r.drop (name.length + 2))
            return (Glob.classRanges name ++ rs, n + name.length + 4)
          else .error "Invalid character class name"
        | none => .error openSet
      | _, _ => do
        let (low, m) ← setChar s (c :: t)
        match (c :: t).drop m with
        | '-' :: d :: r =>
          if d = ']' then
            let (rs, n) ← readSet s fuel false ('-' :: d :: r)
            return ((low, low) :: rs, n + m)
          else
            let (high, k) ← setChar s (d :: r)
            if high < low then .error "Invalid range end"
            else
              let (rs, n) ← readSet s fuel false ((d :: r).drop k)
              return ((low, high) :: rs, n + m + 1 + k)
        | rest =>
          let (rs, n) ← readSet s fuel false rest
          return ((low, low) :: rs, n + m)

/-! ## Spellings -/

/-- Where the reading of signs stands: whether a branch starts here, how many groups are open, and
    whether a repetition stands before. -/
structure Standing where
  first : Bool := true
  open_ : Nat := 0
  repeated : Bool := false

/-- The message about a repetition of nothing. -/
def noPiece : String := "Invalid preceding regular expression"

/-- A repetition where it stands; in front of a branch there is nothing to repeat. -/
def repetition (s : Spelling) (at_ : Standing) (c : Char) (least : Nat) (most : Option Nat) :
    Except String (Option RegexSign) :=
  if !at_.first then
    if at_.repeated && !s.extended && !s.lenient then .error noPiece
    else .ok (some (.times least most))
  else if !s.extended then .ok (some (.char c))
  else if s.lenient then .ok none
  else .error noPiece

/-- The sign at the start of a spelling, if it counts, and its length. -/
def readSign (s : Spelling) (at_ : Standing) (c : Char) (t : Octets) :
    Except String (Option RegexSign × Nat) := do
  let one (sign : RegexSign) : Except String (Option RegexSign × Nat) := .ok (some sign, 1)
  match c with
  | '\\' =>
    let bounded := t.head? == some '\x7b' && !s.extended
    if bounded && at_.first && s.lenient then return (some (.char '\x7b'), 2)
    let (sign, n) ← escaped s t
    match sign with
    | .times least most =>
      if at_.first then
        if bounded then .error noPiece else .ok (t.head?.map .char, n + 1)
      else if bounded && at_.repeated && !s.lenient then .error noPiece
      else .ok (some (.times least most), n + 1)
    | .closing =>
      if at_.open_ = 0 then .error "Unmatched ) or \\)" else .ok (some sign, n + 1)
    | sign => .ok (some sign, n + 1)
  | '.' => one .any
  | '[' =>
    let negated := t.head? == some '^'
    let lead := if negated then 1 else 0
    if (t.drop lead).isEmpty then .error "Invalid regular expression"
    let (ranges, n) ← readSet s (t.length + 1) true (t.drop lead)
    .ok (some (.among negated ranges), n + lead + 1)
  | '*' => .ok (← repetition s at_ c 0 none, 1)
  | '^' => one (if at_.first || s.extended then .edge .lineStart else .char c)
  | '$' =>
    let last := t.isEmpty || t.head? == some '\n' ||
      "\\)".toList.isPrefixOf t || "\\|".toList.isPrefixOf t
    one (if last || s.extended then .edge .lineEnd else .char c)
  | _ =>
    if !s.extended then one (.char c)
    else
      match c with
      | '(' => one .opening
      | ')' =>
        if 0 < at_.open_ then one .closing
        else if s.lenient then one (.char c)
        else .error "Unmatched ) or \\)"
      | '|' => one .bar
      | '+' => .ok (← repetition s at_ c 1 none, 1)
      | '?' => .ok (← repetition s at_ c 0 (some 1), 1)
      | '\x7b' =>
        if !s.bounds then one (.char c)
        else
          if at_.first && !s.lenient then .error noPiece
          let (sign, n) ← readRepetition s t
          match sign with
          | .times least most => .ok (← repetition s at_ c least most, n + 1)
          | sign => .ok (some sign, n + 1)
      | _ => one (.char c)

/-- Where the reading stands after a sign. -/
def Standing.after (at_ : Standing) : RegexSign → Standing
  | .opening => ⟨true, at_.open_ + 1, false⟩
  | .closing => ⟨false, at_.open_ - 1, false⟩
  | .bar => ⟨true, at_.open_, false⟩
  | .edge .lineStart => ⟨at_.first, at_.open_, false⟩
  | .times _ _ => ⟨false, at_.open_, true⟩
  | _ => ⟨false, at_.open_, false⟩

/-- The signs of a spelling, without those that are left out; `fuel` bounds its length. -/
def readSigns (s : Spelling) : (fuel : Nat) → Standing → Octets → Except String (List RegexSign)
  | 0, _, _ => .ok []
  | _, at_, [] => if at_.open_ = 0 then .ok [] else .error "Unmatched ( or \\("
  | fuel + 1, at_, c :: t => do
    let (sign?, n) ← readSign s at_ c t
    match sign? with
    | some sign => return sign :: (← readSigns s fuel (at_.after sign) ((c :: t).drop n))
    | none => readSigns s fuel at_ ((c :: t).drop n)

/-! ## Expressions -/

/-- What is still to be read, the number of groups so far, and those that are closed. -/
structure Reading where
  signs : List RegexSign
  groups : Nat := 0
  closed : List Nat := []

/-- A step of reading an expression. -/
abbrev Parse := StateT Reading (Except String)

/-- Goes over one sign. -/
def skipSign : Parse Unit := modify fun r => { r with signs := r.signs.drop 1 }

/-- The repetitions after a piece; `fuel` bounds their number. -/
def readTimes : (fuel : Nat) → Regex → Parse Regex
  | 0, r => return r
  | fuel + 1, r => do
    match (← get).signs with
    | .times least most :: _ =>
      skipSign
      readTimes fuel (.times least most r)
    | _ => return r

/-- A piece of a branch; `whole` reads what stands in a group. -/
def readPiece (whole : Parse Regex) : Parse Regex := do
  let state ← get
  match state.signs with
  | .char c :: _ => skipSign; return .char c
  | .any :: _ => skipSign; return .any
  | .among negated ranges :: _ => skipSign; return .among negated ranges
  | .edge e :: _ => skipSign; return .edge e
  | .back n :: _ =>
    skipSign
    if state.closed.contains n then return .back n else throw "Invalid back reference"
  | .opening :: rest =>
    let index := state.groups + 1
    set { state with signs := rest, groups := index }
    let r ← whole
    skipSign
    modify fun s => { s with closed := index :: s.closed }
    return .group index r
  | _ => skipSign; return .empty

/-- The pieces of a branch; `fuel` bounds their number. -/
def readBranch (whole : Parse Regex) : (fuel : Nat) → Parse Regex
  | 0 => return .empty
  | fuel + 1 => do
    match (← get).signs with
    | [] | .bar :: _ | .closing :: _ => return .empty
    | signs =>
      let piece ← readTimes signs.length (← readPiece whole)
      return .both piece (← readBranch whole fuel)

/-- Branches separated by bars; `depth` bounds the nesting. -/
def readWhole : (depth : Nat) → Parse Regex
  | 0 => throw "Regular expression too big"
  | depth + 1 => do
    let first ← readBranch (readWhole depth) ((← get).signs.length + 1)
    match (← get).signs with
    | .bar :: _ =>
      skipSign
      return .either first (← readWhole depth)
    | _ => return first

/-- The expression with a spelling, or what is wrong with it. -/
def parse (s : Spelling) (t : Octets) : Except String Regex := do
  let signs ← readSigns s (t.length + 1) {} t
  return (← (readWhole (signs.length + 1)).run { signs := signs }).1

/-- The expression for a text. -/
def literal (t : Octets) : Regex := t.foldr (fun c r => .both (.char c) r) .empty

/-- The number of groups. -/
def groups : Regex → Nat
  | both a b | either a b => max (groups a) (groups b)
  | times _ _ r => groups r
  | group n r => max n (groups r)
  | _ => 0

/-- Whether the text of a group is looked for again. -/
def looksBack : Regex → Bool
  | both a b | either a b => looksBack a || looksBack b
  | times _ _ r | group _ r => looksBack r
  | back _ => true
  | _ => false

end Regex

end Retouch.Shell
