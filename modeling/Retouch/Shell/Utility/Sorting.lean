/-
  Utilities on sorted lines.

  Lines are compared by keys, each a part of the line with a way of comparing it, and in the end as
  they are.  `sort` puts lines in order; `uniq`, `comm` and `join` rely on that order.
-/
import Retouch.Decimal.Notation
import Retouch.Shell.Utility.Texts

namespace Retouch.Shell.Utility

/-! ## Keys -/

/-- A part of a line by which lines are compared: fields and characters to skip up to its start and
    its end, and the letters of the way of comparing. -/
structure SortKey where
  startField : Nat := 0
  startChar : Nat := 0
  /-- Without an end, the key goes on to the end of the line. -/
  endField : Option Nat := none
  endChar : Nat := 0
  flags : List Char := []
  skipStart : Bool := false
  skipEnd : Bool := false

/-- Whether a character separates fields, if nothing else is said. -/
def isBlankChar (c : Char) : Bool := c == ' ' || c == '\t' || c == '\n'

/-- Goes over one field, and over the mark that follows it if `whole`. -/
def skipField (mark : Option Char) (whole : Bool) (l : Octets) : Octets :=
  match mark with
  | some m =>
    let rest := l.dropWhile (· != m)
    if whole then rest.drop 1 else rest
  | none => (l.dropWhile isBlankChar).dropWhile fun c => !isBlankChar c

/-- The part of a line that a key names. -/
def SortKey.part (k : SortKey) (mark : Option Char) (l : Octets) : Octets :=
  let start := (List.range k.startField).foldl (fun l _ => skipField mark true l) l
  let start := if k.skipStart then start.dropWhile isBlankChar else start
  let start := start.drop k.startChar
  match k.endField with
  | none => start
  | some n =>
    let fields := if k.endChar = 0 then n + 1 else n
    let stop := (List.range fields).foldl
      (fun l i => skipField mark (i + 1 < fields || k.endChar != 0) l) l
    let stop := if k.endChar != 0 && k.skipEnd then stop.dropWhile isBlankChar else stop
    let stop := stop.drop k.endChar
    start.take (start.length - stop.length)

/-! ## Ways of comparing -/

/-- A number at the start of a text: its sign, its whole part and its places without zeros at the
    end. -/
structure PlainNumber where
  negative : Bool
  whole : Nat
  places : Octets

/-- The number at the start of a text, behind blanks; no digits are zero. -/
def plainNumber (l : Octets) : PlainNumber × Octets :=
  let t := l.dropWhile isBlankChar
  let (negative, t) : Bool × Octets :=
    match t with
    | '-' :: r => (true, r)
    | r => (false, r)
  let whole := t.takeWhile Char.isDigit
  let t := t.drop whole.length
  let (places, t) : Octets × Octets :=
    match t with
    | '.' :: r => (r.takeWhile Char.isDigit, r.dropWhile Char.isDigit)
    | _ => ([], t)
  (⟨negative, Text.digitsValue whole, Text.dropEndWhile (· == '0') places⟩, t)

/-- Compares two texts byte by byte. -/
def compareTexts (a b : Octets) : Ordering := if a < b then .lt else if b < a then .gt else .eq

/-- Compares two numbers. -/
def PlainNumber.compare (a b : PlainNumber) : Ordering :=
  let isZero (n : PlainNumber) : Bool := n.whole == 0 && n.places.isEmpty
  let size : Ordering := (Ord.compare a.whole b.whole).then (compareTexts a.places b.places)
  let low (n : PlainNumber) : Bool := n.negative && !isZero n
  match low a, low b with
  | true, false => .lt
  | false, true => .gt
  | true, true => size.swap
  | false, false => size

/-- The power of a letter behind a number. -/
def unitPower (t : Octets) : Nat :=
  match t with
  | c :: _ => if c = 'k' then 1 else ("KMGTPEZYRQ".toList.idxOf? c).elim 0 (· + 1)
  | [] => 0

/-- Compares two numbers with letters for powers behind them. -/
def compareHuman (a b : Octets) : Ordering :=
  let (m, s) := plainNumber a
  let (n, t) := plainNumber b
  let rank (x : PlainNumber) (u : Octets) : Int :=
    if x.whole = 0 ∧ x.places.isEmpty then 0
    else if x.negative then -(unitPower u : Int) else unitPower u
  (Ord.compare (rank m s) (rank n t)).then (m.compare n)

/-- Compares two texts by the floating-point numbers that they start with; those without a number come
    first, and then what is no number. -/
def compareGeneral (a b : Octets) : Ordering :=
  let value (t : Octets) : Nat × Int × Nat :=
    match Decimal.readNumeral? t with
    | none => (0, 0, 1)
    | some (.nan _, _) => (1, 0, 1)
    | some (.infinite negative, _) => (if negative then 2 else 4, 0, 1)
    | some (.ratio negative num den, _) => (3, if negative then -(num : Int) else num, den)
  let (i, m, d) := value a
  let (j, n, e) := value b
  (Ord.compare i j).then (Ord.compare (m * e) (n * d))

/-- The number of the month that a text starts with, or zero. -/
def monthNumber (t : Octets) : Nat :=
  let name := ((t.dropWhile isBlankChar).take 3).map Char.toUpper
  let months := ["JAN", "FEB", "MAR", "APR", "MAY", "JUN", "JUL", "AUG", "SEP", "OCT", "NOV", "DEC"]
  (months.findIdx? fun m => m.toList == name).elim 0 (· + 1)

/-- The rank of a character in a version. -/
def versionRank (c : Option Char) : Int :=
  match c with
  | none => -1
  | some c =>
    if c.isDigit then 0
    else if c.isAlpha then c.toNat
    else if c = '~' then -2
    else c.toNat + 256

/-- Compares versions: runs of digits by value, other characters by rank; `fuel` bounds the runs. -/
def compareRuns : (fuel : Nat) → Octets → Octets → Ordering
  | 0, _, _ => .eq
  | _, [], [] => .eq
  | fuel + 1, a, b =>
    let isDigit (t : Octets) : Bool := (t.head?).any Char.isDigit
    if (a.isEmpty || isDigit a) && (b.isEmpty || isDigit b) then
      let m := a.takeWhile Char.isDigit
      let n := b.takeWhile Char.isDigit
      (Ord.compare (Text.digitsValue m) (Text.digitsValue n)).then
        (compareRuns fuel (a.drop m.length) (b.drop n.length))
    else
      let rank (t : Octets) : Int := if isDigit t then 0 else versionRank t.head?
      (Ord.compare (rank a) (rank b)).then
        (compareRuns fuel (if isDigit a then a else a.drop 1) (if isDigit b then b else b.drop 1))

/-- A name without the endings behind it, such as `.tar.gz`. -/
def versionStem (t : Octets) : Octets :=
  let parts := t.splitOnP (· == '.')
  let isEnding (p : Octets) : Bool :=
    (p.head?).any (fun c => c.isAlpha || c == '~') && p.all fun c => c.isAlphanum || c == '~'
  let kept := parts.reverse.dropWhile isEnding
  if kept.isEmpty then parts.headD [] else List.intercalate ['.'] kept.reverse

/-- Compares two texts as versions. -/
def compareVersions (a b : Octets) : Ordering :=
  let fuel := a.length + b.length + 2
  let rank (t : Octets) : Nat :=
    if t.isEmpty then 0 else if t = ['.'] then 1 else if t = ['.', '.'] then 2
    else if t.head? = some '.' then 3 else 4
  ((Ord.compare (rank a) (rank b)).then (compareRuns fuel (versionStem a) (versionStem b))).then
    (compareRuns fuel a b)

/-- A text as it counts: letters in upper case, and only some characters, as flags say. -/
def counted (flags : List Char) (t : Octets) : Octets :=
  let t := if flags.contains 'd' then t.filter fun c => c.isAlphanum || isBlankChar c else t
  let t := if flags.contains 'i' then t.filter fun c => ' ' ≤ c && c ≤ '~' else t
  if flags.contains 'f' then t.map Char.toUpper else t

/-- Compares two parts in the way that flags say. -/
def compareParts (flags : List Char) (a b : Octets) : Ordering :=
  if flags.contains 'n' then (plainNumber a).1.compare (plainNumber b).1
  else if flags.contains 'h' then compareHuman a b
  else if flags.contains 'g' then compareGeneral a b
  else if flags.contains 'M' then Ord.compare (monthNumber a) (monthNumber b)
  else if flags.contains 'V' then compareVersions a b
  else compareTexts (counted flags a) (counted flags b)

/-! ## Sorting -/

/-- How lines are sorted. -/
structure SortOrder where
  keys : List SortKey
  mark : Option Char
  reverse : Bool
  /-- Lines that are equal in all keys are not compared further. -/
  stable : Bool

/-- Compares two lines by their keys. -/
def SortOrder.compareKeys (s : SortOrder) (a b : Octets) : Ordering :=
  s.keys.foldl
    (fun order k =>
      match order with
      | .eq =>
        let o := compareParts k.flags (k.part s.mark a) (k.part s.mark b)
        if k.flags.contains 'r' then o.swap else o
      | o => o)
    .eq

/-- Compares two lines. -/
def SortOrder.compare (s : SortOrder) (a b : Octets) : Ordering :=
  match s.compareKeys a b with
  | .eq =>
    if s.stable then .eq
    else
      let o := compareTexts a b
      if s.reverse then o.swap else o
  | o => o

/-- The letters of ways of comparing. -/
def sortLetters : List Char := "bdfghiMnRrV".toList

/-- A count in a key. -/
def keyCount (t : Octets) : Option (Nat × Octets) :=
  let digits := t.takeWhile Char.isDigit
  if digits.isEmpty then none else some (Text.digitsValue digits, t.drop digits.length)

/-- A position in a key: a field, a character in it, letters, and what follows. -/
def keyPosition (what : String) (t : Octets) : Except Octets (Nat × Option Nat × List Char × Octets) :=
  match keyCount t with
  | none =>
    .error ("invalid number ".toList ++ what.toList ++ ": invalid count at start of ".toList ++ quote t)
  | some (field, r) =>
    let position (char : Option Nat) (r : Octets) : Nat × Option Nat × List Char × Octets :=
      let letters := r.takeWhile sortLetters.contains
      (field, char, letters, r.drop letters.length)
    match r with
    | '.' :: s =>
      match keyCount s with
      | some (char, s) => .ok (position (some char) s)
      | none =>
        .error ("invalid number after '.': invalid count at start of ".toList ++ quote s)
    | _ => .ok (position none r)

/-- The key that an option describes. -/
def readSortKey (t : Octets) : Except Octets SortKey := do
  let zero (what : String) : Except Octets SortKey :=
    .error (what.toList ++ ": invalid field specification ".toList ++ quote t)
  let (field, char, letters, rest) ← keyPosition "at field start" t
  if field = 0 then zero "field number is zero"
  else if char = some 0 then zero "character offset is zero"
  else
    let key : SortKey :=
      { startField := field - 1, startChar := char.getD 1 - 1, flags := letters
        skipStart := letters.contains 'b' }
    match rest with
    | [] => return key
    | ',' :: r =>
      let (field, char, letters, rest) ← keyPosition "after ','" r
      if field = 0 then zero "field number is zero"
      else if !rest.isEmpty then zero "stray character in field spec"
      else
        return { key with
          endField := some (field - 1), endChar := char.getD 0, flags := key.flags ++ letters
          skipEnd := letters.contains 'b' }
    | _ => zero "stray character in field spec"

/-- Merges lists of lines that are in order; `fuel` bounds the lines. -/
def mergeLines (le : Octets → Octets → Bool) : (fuel : Nat) → List Octets → List Octets → List Octets
  | 0, a, b => a ++ b
  | _, [], b => b
  | _, a, [] => a
  | fuel + 1, a :: as, b :: bs =>
    if le a b then a :: mergeLines le fuel as (b :: bs) else b :: mergeLines le fuel (a :: as) bs

/-- Lines that follow an equal one are left out. -/
def dedup (same : Octets → Octets → Bool) : List Octets → List Octets
  | [] => []
  | l :: ls =>
    match dedup same ls with
    | [] => [l]
    | m :: ms => if same l m then l :: ms else l :: m :: ms

/-- The first line that is out of order, with its number. -/
def firstDisorder (wrong : Octets → Octets → Bool) : (number : Nat) → List Octets → Option (Nat × Octets)
  | n, a :: b :: ls => if wrong a b then some (n + 1, b) else firstDisorder wrong (n + 1) (b :: ls)
  | _, _ => none

/-- The keys and the order that options describe. -/
def sortOrder (o : Options) : Utility SortOrder := do
  let mark ← (do
    match o.value? 't' with
    | none => return none
    | some ['\\', '0'] => return some '\x00'
    | some [c] => return some c
    | some [] => refuse "empty tab".toList 2
    | some t => refuse ("multi-character tab ".toList ++ quote t) 2 : Utility (Option Char))
  let flags := sortLetters.filter o.has
  let keys ← (o.values 'k').mapM fun t =>
    match readSortKey t with
    | .ok k => return k
    | .error m => refuse m 2
  let keys := keys.map fun k =>
    if k.flags.isEmpty then
      { k with flags := flags, skipStart := flags.contains 'b', skipEnd := flags.contains 'b' }
    else k
  let whole : SortKey := { flags := flags, skipStart := flags.contains 'b' }
  let keys := if keys.isEmpty && flags.any (· != 'r') then [whole] else keys
  return { keys, mark, reverse := o.has 'r', stable := o.has 's' || o.has 'u' }

/-- Sorts lines. -/
def sort : Utility Unit := do
  let o ← options {
    plain := "bdfghiMnRrVcCmsuz", valued := "ktoST"
    long := [("key", 'k'), ("field-separator", 't'), ("output", 'o'), ("reverse", 'r'),
      ("numeric-sort", 'n'), ("unique", 'u'), ("ignore-case", 'f'), ("ignore-leading-blanks", 'b'),
      ("dictionary-order", 'd'), ("general-numeric-sort", 'g'), ("human-numeric-sort", 'h'),
      ("ignore-nonprinting", 'i'), ("month-sort", 'M'), ("version-sort", 'V'), ("stable", 's'),
      ("check", 'c'), ("merge", 'm'), ("zero-terminated", 'z')]
    status := 2 }
  let order ← sortOrder o
  let mark := if o.has 'z' then '\x00' else '\n'
  let mut files : List (List Octets) := []
  for p in sources o do
    match ← content p with
    | .ok t =>
      exhaust
      files := files ++ [if o.has 'z' then records mark t else bareLines t]
    | .error fault =>
      refuse (about ((if o.has 'c' || o.has 'm' then "open failed: " else "cannot read: ").toList ++ p) fault) 2
  let plain := order.keys.isEmpty
  let compare (a b : Octets) : Ordering :=
    if plain then (if o.has 'r' then compareTexts b a else compareTexts a b) else order.compare a b
  let le (a b : Octets) : Bool := compare a b != .gt
  if o.has 'c' || o.has 'C' then
    let wrong (a b : Octets) : Bool :=
      if o.has 'u' then compare a b != .lt else compare a b == .gt
    match firstDisorder wrong 1 (files.headD []) with
    | none => return ()
    | some (n, l) =>
      setStatus 1
      if !o.has 'C' then
        complain ((sources o).headD [] ++ ':' :: Text.ofNat n ++ ": disorder: ".toList ++ l) 1
  else
    let sorted :=
      if o.has 'm' then files.foldl (fun a b => mergeLines le (a.length + b.length + 1) a b) []
      else files.flatten.mergeSort le
    let kept := if o.has 'u' then dedup (fun a b => compare a b == .eq) sorted else sorted
    let text := (kept.map (· ++ [mark])).flatten
    match o.value? 'o' with
    | none => say text
    | some p =>
      match ← store p false text with
      | none => return ()
      | some fault => complain (about ("open failed: ".toList ++ p) fault) 2

/-! ## Repeated lines -/

/-- The part of a line by which `uniq` compares it. -/
def uniqPart (o : Options) (l : Octets) : Octets :=
  let number (c : Char) : Option Nat := (o.value? c).bind (Text.natBelow? (Nat.pow 2 63))
  let l := (List.range ((number 'f').getD 0)).foldl (fun l _ => skipField none false l) l
  let l := l.drop ((number 's').getD 0)
  let l := match number 'w' with | some n => l.take n | none => l
  if o.has 'i' then l.map Char.toLower else l

/-- Runs of lines that count as equal. -/
def groupRuns (part : Octets → Octets) : List Octets → List (List Octets)
  | [] => []
  | l :: ls =>
    match groupRuns part ls with
    | (m :: run) :: rest =>
      if part l = part m then (l :: m :: run) :: rest else [l] :: (m :: run) :: rest
    | rest => [l] :: rest

/-- Joins equal lines that follow each other. -/
def uniq : Utility Unit := do
  let o ← options {
    plain := "cdDuizG", valued := "fsw"
    long := [("count", 'c'), ("repeated", 'd'), ("all-repeated", 'D'), ("unique", 'u'),
      ("ignore-case", 'i'), ("skip-fields", 'f'), ("skip-chars", 's'), ("check-chars", 'w'),
      ("zero-terminated", 'z'), ("group", 'G')] }
  match o.operands with
  | _ :: _ :: extra :: _ => misuse ("extra operand ".toList ++ quote extra) 1
  | _ => pure ()
  let mark := if o.has 'z' then '\x00' else '\n'
  match ← content (o.operands.headD ['-']) with
  | .error fault => complain (about (o.operands.headD []) fault) 1
  | .ok t =>
    let lines := if o.has 'z' then records mark t else bareLines t
    let runs := groupRuns (uniqPart o) lines
    let shown (run : List Octets) : Octets :=
      let n := run.length
      if o.has 'D' then if n > 1 then (run.map (· ++ [mark])).flatten else []
      else if o.has 'd' && n = 1 || o.has 'u' && n > 1 then []
      else
        let l := run.headD [] ++ [mark]
        if o.has 'c' then column 7 n ++ ' ' :: l else l
    let text :=
      if o.has 'G' then List.intercalate [mark] (runs.map fun r => (r.map (· ++ [mark])).flatten)
      else (runs.map shown).flatten
    match o.operands with
    | [_, target] =>
      match ← store target false text with
      | none => return ()
      | some fault => complain (about target fault) 1
    | _ => say text

/-! ## Two sorted files -/

/-- The content of two files that operands name. -/
def twoFiles (operands : List Octets) (status : Nat) : Utility (Octets × Octets) := do
  match operands with
  | [] => misuse "missing operand".toList status
  | [a] => misuse ("missing operand after ".toList ++ quote a) status
  | [a, b] =>
    match ← content a with
    | .error fault => refuse (about a fault) status
    | .ok s =>
      match ← content b with
      | .error fault => refuse (about b fault) status
      | .ok t => return (s, t)
  | _ :: _ :: extra :: _ => misuse ("extra operand ".toList ++ quote extra) status

/-- Lines of the first file only, of the second only, and of both, in order; `fuel` bounds them. -/
def commLines : (fuel : Nat) → List Octets → List Octets → List (Nat × Octets)
  | 0, _, _ => []
  | _, [], [] => []
  | fuel + 1, a :: as, [] => (1, a) :: commLines fuel as []
  | fuel + 1, [], b :: bs => (2, b) :: commLines fuel [] bs
  | fuel + 1, a :: as, b :: bs =>
    match compareTexts a b with
    | .lt => (1, a) :: commLines fuel as (b :: bs)
    | .gt => (2, b) :: commLines fuel (a :: as) bs
    | .eq => (3, a) :: commLines fuel as bs

/-- Compares two sorted files line by line. -/
def comm : Utility Unit := do
  let o ← options {
    plain := "123zNt", valued := "O"
    long := [("output-delimiter", 'O'), ("check-order", 'N'), ("nocheck-order", 'N'), ("total", 't'),
      ("zero-terminated", 'z')] }
  let (s, t) ← twoFiles o.operands 1
  let a := bareLines s
  let b := bareLines t
  let mark := (o.value? 'O').getD ['\t']
  let marks (n : Nat) : Octets :=
    ((List.range (n - 1)).map fun i => if o.has (Char.ofNat (49 + i)) then [] else mark).flatten
  let rows := commLines (a.length + b.length + 1) a b
  rows.forM fun (n, l) => do
    if !o.has (Char.ofNat (48 + n)) then sayLine (marks n ++ l)
  if o.has 't' then
    let total (n : Nat) : Octets := Text.ofNat ((rows.filter (·.1 == n)).length)
    sayLine (total 1 ++ mark ++ total 2 ++ mark ++ total 3 ++ mark ++ "total".toList)
  let wrong (x y : Octets) : Bool := compareTexts x y == .gt
  let disorder (ls : List Octets) : Bool := (firstDisorder wrong 1 ls).isSome
  if !o.has 'N' && (disorder a || disorder b) && a ≠ b then
    if disorder a then complain "file 1 is not in sorted order".toList 1
    if disorder b then complain "file 2 is not in sorted order".toList 1
    complain "input is not in sorted order".toList 1

/-- The fields of a line of `join`. -/
def joinFields (mark : Option Char) (l : Octets) : List Octets :=
  match mark with
  | some m => l.splitOnP (· == m)
  | none => (l.splitOnP isBlankChar).filter (!·.isEmpty)

/-- What is written for a field that is missing or in a place. -/
def joinField (empty : Octets) (fields : List Octets) (n : Nat) : Octets :=
  match fields[n]? with
  | some f => if f.isEmpty then empty else f
  | none => empty

/-- Joins the lines of two sorted files that agree in a field. -/
def join : Utility Unit := do
  let o ← options {
    plain := "izcH", valued := "12jtaveo"
    long := [("ignore-case", 'i'), ("header", 'H'), ("check-order", 'c'), ("nocheck-order", 'c')] }
  let (s, t) ← twoFiles o.operands 1
  let number (c : Char) : Option Nat := (o.value? c).bind (Text.natBelow? (Nat.pow 2 31))
  let first := ((number '1').or (number 'j')).getD 1 - 1
  let second := ((number '2').or (number 'j')).getD 1 - 1
  let mark := (o.value? 't').bind List.head?
  let empty := (o.value? 'e').getD []
  let unpaired (file : Char) : Bool := (o.values 'a').contains [file] || (o.values 'v').contains [file]
  let rowsOf (text : Octets) : List (List Octets) := (bareLines text).map (joinFields mark)
  let key (n : Nat) (row : List Octets) : Octets :=
    let k := row.getD n []
    if o.has 'i' then k.map Char.toLower else k
  let formats : List Octets := (o.values 'o').flatMap fun v => v.splitOnP fun c => c == ',' || c == ' '
  let joined (k : Octets) (a b : List Octets) : Octets :=
    let parts : List Octets :=
      if formats.isEmpty then k :: a.eraseIdx first ++ b.eraseIdx second
      else formats.map fun f =>
        match f with
        | ['0'] => if k.isEmpty then empty else k
        | '1' :: '.' :: d => joinField empty a (Text.digitsValue d - 1)
        | '2' :: '.' :: d => joinField empty b (Text.digitsValue d - 1)
        | _ => []
    List.intercalate [mark.getD ' '] parts
  let a := rowsOf s
  let b := rowsOf t
  let keys (n : Nat) (rows : List (List Octets)) : List Octets := rows.map (key n)
  let both := !o.has 'v'
  let rec go : (fuel : Nat) → List (List Octets) → List (List Octets) → List Octets
    | 0, _, _ => []
    | _, [], [] => []
    | fuel + 1, x :: xs, [] =>
      (if unpaired '1' then [joined (x.getD first []) x []] else []) ++ go fuel xs []
    | fuel + 1, [], y :: ys =>
      (if unpaired '2' then [joined (y.getD second []) [] y] else []) ++ go fuel [] ys
    | fuel + 1, x :: xs, y :: ys =>
      match compareTexts (key first x) (key second y) with
      | .lt => (if unpaired '1' then [joined (x.getD first []) x []] else []) ++ go fuel xs (y :: ys)
      | .gt => (if unpaired '2' then [joined (y.getD second []) [] y] else []) ++ go fuel (x :: xs) ys
      | .eq =>
        let k := key first x
        let left := (x :: xs).takeWhile fun r => key first r == k
        let right := (y :: ys).takeWhile fun r => key second r == k
        let pairs := left.flatMap fun r => right.map fun q => joined (r.getD first []) r q
        (if both then pairs else []) ++
          go fuel ((x :: xs).drop left.length) ((y :: ys).drop right.length)
  (go (a.length + b.length + 1) a b).forM sayLine
  let wrong (x y : Octets) : Bool := compareTexts x y == .gt
  let check (file : Octets) (ls : List Octets) (ks : List Octets) : Utility Bool := do
    match firstDisorder wrong 1 ks with
    | none => return false
    | some (n, _) =>
      complain (file ++ ':' :: Text.ofNat n ++ ": is not sorted: ".toList ++ ls.getD (n - 1) []) 1
      return true
  if !o.has 'c' then
    let one ← check (o.operands.headD []) (bareLines s) (keys first a)
    let two ← check (o.operands.getD 1 []) (bareLines t) (keys second b)
    if one || two then complain "input is not in sorted order".toList 1

/-! ## Order by relations -/

/-- An item of a partial order: how many others have to come first, and which come later, the last
    one first. -/
structure Item where
  name : Octets
  before : Nat := 0
  after : List Octets := []

/-- The items after one is changed, which is added if it is new. -/
def changeItem (name : Octets) (f : Item → Item) (items : List Item) : List Item :=
  if items.any (·.name == name) then items.map fun i => if i.name == name then f i else i
  else items ++ [f { name := name }]

/-- The items of a list of pairs. -/
def relate : List Octets → List Item → List Item
  | a :: b :: rest, items =>
    let items := changeItem b id (changeItem a id items)
    relate rest (if a = b then items
      else changeItem b (fun i => { i with before := i.before + 1 })
        (changeItem a (fun i => { i with after := b :: i.after }) items))
  | _, items => items

/-- Takes items that nothing has to precede, in the order in which they become so; `fuel` bounds
    them.  Gives the names and the items left. -/
def drain : (fuel : Nat) → (queue : List Octets) → List Item → List Octets × List Item
  | 0, _, items => ([], items)
  | _, [], items => ([], items)
  | fuel + 1, name :: queue, items =>
    let later := ((items.find? (·.name == name)).map (·.after)).getD []
    let items := items.filter (·.name != name)
    let (items, free) := later.foldl
      (fun (items, free) n =>
        let items := changeItem n (fun i => { i with before := i.before - 1 }) items
        let isFree := ((items.find? (·.name == n)).map (·.before)) == some 0
        (items, if isFree then free ++ [n] else free))
      (items, [])
    let (names, left) := drain fuel (queue ++ free) items
    (name :: names, left)

/-- Puts items in an order that relations between them allow. -/
def tsort : Utility Unit := do
  let o ← options {}
  let p := o.operands.headD ['-']
  match ← content p with
  | .error fault => complain (about p fault) 1
  | .ok t =>
    exhaust
    let tokens := (t.splitOnP isSpace).filter (!·.isEmpty)
    if tokens.length % 2 = 1 then
      refuse (p ++ ": input contains an odd number of tokens".toList) 1
    let items := (relate tokens []).mergeSort fun a b => Text.upTo a.name b.name
    let free := (items.filter (·.before == 0)).map (·.name)
    let (names, left) := drain (items.length + 1) free items
    names.forM sayLine
    if !left.isEmpty then
      complain (p ++ ": input contains a loop:".toList) 1
      left.forM fun i => complain i.name 1
      left.forM fun i => sayLine i.name

end Retouch.Shell.Utility
