/-
  Utilities on texts: they read files or their input line by line and write lines.
-/
import Retouch.Shell.Format
import Retouch.Shell.Matching
import Retouch.Shell.Utility.Basic

namespace Retouch.Shell.Utility

/-! ## Whole texts -/

/-- A byte as it can be shown: control characters behind a caret, high bytes behind `M-`. -/
def visible (tabs : Bool) (c : Char) : Octets :=
  let low (n : Nat) : Octets :=
    if n < 32 then ['^', Char.ofNat (n + 64)] else if n = 127 then ['^', '?'] else [Char.ofNat n]
  if c = '\n' ∨ (c = '\t' ∧ !tabs) then [c]
  else if c.toNat < 128 then low c.toNat
  else "M-".toList ++ low (c.toNat - 128)

/-- How `cat` shows lines. -/
structure CatStyle where
  number : Bool
  onlyFilled : Bool
  squeeze : Bool
  ends : Bool
  control : Bool
  tabs : Bool

/-- A line as `cat` shows it. -/
def CatStyle.line (s : CatStyle) (l : Octets) : Octets :=
  l.flatMap fun c =>
    if c = '\n' then (if s.ends then ['$', '\n'] else ['\n'])
    else if c = '\t' then (if s.tabs then ['^', 'I'] else [c])
    else if s.control then visible true c
    else [c]

/-- Lines as `cat` shows them; `count` lines have a number already, and `blank` tells that the last
    one was empty. -/
def CatStyle.lines (s : CatStyle) : (count : Nat) → (blank : Bool) → List Octets → Octets
  | _, _, [] => []
  | count, blank, l :: ls =>
    let isBlank := l == ['\n']
    if s.squeeze && blank && isBlank then s.lines count true ls
    else if s.number && !(s.onlyFilled && isBlank) then
      column 6 (count + 1) ++ '\t' :: s.line l ++ s.lines (count + 1) isBlank ls
    else s.line l ++ s.lines count isBlank ls

/-- Writes files one after another. -/
def cat : Utility Unit := do
  let o ← options {
    plain := "AbeEnstTuv"
    long := [("show-all", 'A'), ("number-nonblank", 'b'), ("show-ends", 'E'), ("number", 'n'),
      ("squeeze-blank", 's'), ("show-tabs", 'T'), ("show-nonprinting", 'v')] }
  modify fun w => { w with direct := true }
  let style : CatStyle := {
    number := o.has 'n' || o.has 'b'
    onlyFilled := o.has 'b'
    squeeze := o.has 's'
    ends := o.has 'E' || o.has 'e' || o.has 'A'
    control := o.has 'v' || o.has 'e' || o.has 't' || o.has 'A'
    tabs := o.has 'T' || o.has 't' || o.has 'A' }
  if o.flags.all (·.1 == 'u') then forFiles (sources o) id 1 fun _ t => say t
  else
    let mut text : List Octets := []
    for p in sources o do
      match ← content p with
      | .ok t => text := t :: text
      | .error fault => complain (about p fault) 1
    say (style.lines 0 false (Text.lines text.reverse.flatten))

/-- Lines in reverse. -/
def tac : Utility Unit := do
  let o ← options {
    plain := "br", valued := "s", long := [("before", 'b'), ("regex", 'r'), ("separator", 's')] }
  let mark := (o.value? 's').getD ['\n']
  let pieces (t : Octets) : List Octets :=
    if mark = ['\n'] then Text.lines t
    else
      let step (s : List Octets × Octets) (c : Char) : List Octets × Octets :=
        let current := c :: s.2
        if mark.reverse.isPrefixOf current then (current.reverse :: s.1, []) else (s.1, current)
      let (done, last) := t.foldl step ([], [])
      (if last.isEmpty then done else last.reverse :: done).reverse
  forFiles (sources o) (fun p => "failed to open ".toList ++ quote p ++ " for reading".toList) 1
    fun _ t => do
      exhaust
      say (pieces t).reverse.flatten

/-- Lines with their characters in reverse. -/
def rev : Utility Unit := do
  let o ← options {}
  forFiles (sources o) (fun p => "cannot open ".toList ++ p) 1 fun _ t =>
    say ((Text.lines t).map fun l =>
      if l.getLast? = some '\n' then l.dropLast.reverse ++ ['\n'] else l.reverse).flatten

/-- Writes the input to the output and to files. -/
def tee : Utility Unit := do
  let o ← options { plain := "aip", long := [("append", 'a'), ("ignore-interrupts", 'i')] }
  modify fun w => { w with direct := true }
  let t ← input
  o.operands.forM fun p => do
    match ← store p (o.has 'a') t with
    | none => pure ()
    | some fault => complain (about p fault) 1
  say t

/-- Writes a line again and again. -/
def yes : Utility Unit := do
  let args := (← read).args
  let args := if args.head? = some ['-', '-'] then args.drop 1 else args
  let line := endLine (if args.isEmpty then ['y'] else List.intercalate [' '] args)
  modify fun w => { w with endless := true }
  say (List.replicate (endlessSize / line.length + 1) line).flatten

/-! ## Ends of texts -/

/-- What the letters behind a number multiply it with. -/
def multiplier? (t : Octets) : Option Nat :=
  let powers := "KMGTPEZY".toList
  match t with
  | [] => some 1
  | ['b'] => some 512
  | ['k'] => some 1024
  | c :: rest =>
    match powers.idxOf? c.toUpper, rest with
    | some i, [] | some i, ['i', 'B'] => some (Nat.pow 1024 (i + 1))
    | some i, ['B'] => some (Nat.pow 1000 (i + 1))
    | _, _ => none

/-- A number that letters may multiply. -/
def scaledNumber? (t : Octets) : Option Nat :=
  let digits := t.takeWhile Char.isDigit
  if digits.isEmpty then none
  else (multiplier? (t.drop digits.length)).map (Text.digitsValue digits * ·)

/-- The number that an option gives, with its sign. -/
def count (t : Octets) (what : String) : Utility (Option Char × Nat) := do
  let (sign, digits) : Option Char × Octets :=
    match t with
    | '-' :: r => (some '-', r)
    | '+' :: r => (some '+', r)
    | r => (none, r)
  match scaledNumber? digits with
  | some n => return (sign, n)
  | none => refuse ("invalid number of ".toList ++ what.toList ++ ": ".toList ++ quote digits) 1

/-- A selection: what is chosen of a text, what is left of it, and whether all of it had to be
    read. -/
structure Selected where
  chosen : Octets
  left : Octets
  needsAll : Bool

/-- A number after a dash, perhaps with letters, becomes the option for lines or bytes. -/
def numericOption (signs : List Char) : List Octets → List Octets
  | (c :: d :: t) :: args =>
    if signs.contains c && d.isDigit then
      let digits := (d :: t).takeWhile Char.isDigit
      let letters := (d :: t).drop digits.length
      let kind := if letters.contains 'c' then 'c' else 'n'
      let others := letters.filter fun l => l == 'q' || l == 'v' || l == 'z'
      let value := if c = '+' then '+' :: digits else digits
      ['-', kind] :: value :: (if others.isEmpty then args else ('-' :: others) :: args)
    else (c :: d :: t) :: args
  | args => args

/-- Selects a part of each file. -/
def ends (signs : List Char) (select : List Octets → Option Char → Nat → Selected) :
    Utility Unit := do
  let o ← optionsOf {
    plain := "qvzfF", valued := "ncs",
    long := [("lines", 'n'), ("bytes", 'c'), ("quiet", 'q'), ("silent", 'q'), ("verbose", 'v'),
      ("zero-terminated", 'z'), ("follow", 'f')] } (numericOption signs (← read).args)
  let byBytes := o.last? "nc" == some 'c'
  let (sign, n) ←
    if byBytes then count ((o.value? 'c').getD []) "bytes"
    else count ((o.value? 'n').getD "10".toList) "lines"
  let mark := if o.has 'z' then '\x00' else '\n'
  let pieces (t : Octets) : List Octets :=
    if byBytes then t.map fun c => [c]
    else if mark = '\n' then Text.lines t
    else
      let whole := (records mark t).map (· ++ [mark])
      if t.getLast? = some mark then whole
      else whole.dropLast ++ (whole.getLast?.map List.dropLast).toList
  let paths := sources o
  let headed := o.last? "qv" == some 'v' || (paths.length > 1 && !o.has 'q')
  let mut shown := false
  for p in paths do
    match ← content p with
    | .error fault => complain (about (unopened p) fault) 1
    | .ok t =>
      let s := select (pieces t) sign n
      if s.needsAll then exhaust else settle
      if inputNames.any (·.toList == p) then leave s.left
      if headed then
        let name := if p = ['-'] then "standard input".toList else p
        say ((if shown then ['\n'] else []) ++ "==> ".toList ++ name ++ " <==\n".toList)
      shown := true
      say s.chosen

/-- The first lines or bytes; with a minus sign, all but the last ones. -/
def head : Utility Unit :=
  ends ['-'] fun pieces sign n =>
    if sign = some '-' then
      ⟨(pieces.take (pieces.length - n)).flatten, (pieces.drop (pieces.length - n)).flatten, true⟩
    else ⟨(pieces.take n).flatten, (pieces.drop n).flatten, false⟩

/-- The last lines or bytes; with a plus sign, from that one on. -/
def tail : Utility Unit :=
  ends ['-', '+'] fun pieces sign n =>
    if sign = some '+' then ⟨(pieces.drop (n - 1)).flatten, [], true⟩
    else ⟨(pieces.drop (pieces.length - n)).flatten, [], true⟩

/-! ## Counting -/

/-- Whether a character is white space. -/
def isSpace (c : Char) : Bool := c == ' ' || ('\t' ≤ c && c ≤ '\r')

/-- The number of words of a text. -/
def countWords (t : Octets) : Nat := ((t.splitOnP isSpace).filter (!·.isEmpty)).length

/-- The width of a line with its tabs. -/
def lineWidth (l : Octets) : Nat :=
  l.foldl (fun n c => if c = '\t' then (n / 8 + 1) * 8 else if ' ' ≤ c && c ≤ '~' then n + 1 else n) 0

/-- The counts of a text: lines, words, characters, bytes and the greatest width. -/
def counts (t : Octets) : List Nat :=
  [t.count '\n', countWords t, t.length, t.length, ((bareLines t).map lineWidth).foldl max 0]

/-- Counts lines, words and bytes. -/
def wc : Utility Unit := do
  let o ← options {
    plain := "lwcmL", valued := "T",
    long := [("lines", 'l'), ("words", 'w'), ("bytes", 'c'), ("chars", 'm'), ("max-line-length", 'L'),
      ("total", 'T')] }
  let wanted := "lwmcL".toList.map fun c =>
    o.has c || (!"lwcmL".toList.any o.has && "lwc".toList.contains c)
  let choose (ns : List Nat) : List Nat := (ns.zip wanted).filterMap fun (n, w) => if w then some n else none
  let mut rows : List (List Nat × Octets) := []
  let mut size := 0
  let mut regular := true
  for p in sources o do
    let isInput := inputNames.any (·.toList == p)
    match ← content p with
    | .ok t =>
      exhaust
      rows := rows ++ [(counts t, if o.operands.isEmpty then [] else ' ' :: p)]
      size := size + t.length
      if isInput && !(← read).isFile then regular := false
      if "/dev/".toList.isPrefixOf p then regular := false
    | .error fault =>
      complain (about p fault) 1
      if fault = .isDirectory then
        rows := rows ++ [(counts [], ' ' :: p)]
        regular := false
  let sum := (List.range 5).map fun i =>
    rows.foldl (fun s r => if i = 4 then max s (r.1.getD i 0) else s + r.1.getD i 0) 0
  let total := if o.operands.length > 1 then [(sum, " total".toList)] else []
  let single := (choose (counts [])).length = 1 && o.operands.length ≤ 1
  let width := if single then 1 else if regular then (Text.ofNat size).length else 7
  for (ns, name) in rows ++ total do
    sayLine (List.intercalate [' '] ((choose ns).map (column width)) ++ name)

/-! ## Numbering -/

/-- How `nl` chooses the lines that it numbers. -/
inductive Numbered where
  | all
  | filled
  | none
  | matching (m : Matcher)

/-- Whether a line is numbered. -/
def Numbered.holds (s : Numbered) (l : Octets) : Bool :=
  match s with
  | .all => true
  | .filled => !l.isEmpty
  | .none => false
  | .matching m => m.finds l.toArray

/-- The style that a text names. -/
def numbered? (t : Octets) : Option Numbered :=
  match t with
  | ['a'] => some .all
  | ['t'] => some .filled
  | ['n'] => some .none
  | 'p' :: r => (Regex.parse {} r).toOption.map fun r => .matching (r.matcher {})
  | _ => none

/-- Numbers lines. -/
def nl : Utility Unit := do
  let o ← options {
    plain := "p", valued := "bdfhilnsvw",
    long := [("body-numbering", 'b'), ("number-width", 'w'), ("number-separator", 's'),
      ("number-format", 'n'), ("starting-line-number", 'v'), ("line-increment", 'i'),
      ("header-numbering", 'h'), ("footer-numbering", 'f'), ("section-delimiter", 'd')] }
  let style (c : Char) (default what : String) : Utility Numbered := do
    let t := (o.value? c).getD default.toList
    match numbered? t with
    | some s => return s
    | none => misuse ("invalid ".toList ++ what.toList ++ " numbering style: ".toList ++ quote t) 1
  let header ← style 'h' "n" "header"
  let body ← style 'b' "t" "body"
  let footer ← style 'f' "n" "footer"
  let number (c : Char) (default : Nat) : Nat :=
    ((o.value? c).bind (Text.natBelow? (Nat.pow 2 63))).getD default
  let width := number 'w' 6
  let step := number 'i' 1
  let separator := (o.value? 's').getD ['\t']
  let format := (o.value? 'n').getD "rn".toList
  let mark := (o.value? 'd').getD "\\:".toList
  let mark := if mark.length = 1 then mark ++ [':'] else mark
  let mut current := body
  let mut next := number 'v' 1
  for p in sources o do
    match ← content p with
    | .error fault => complain (about p fault) 1
    | .ok t =>
      for l in bareLines t do
        if l = mark ++ mark ++ mark then
          current := header
          if !o.has 'p' then next := number 'v' 1
          say ['\n']
        else if l = mark ++ mark then
          current := body
          if !o.has 'p' then next := number 'v' 1
          say ['\n']
        else if l = mark then
          current := footer
          if !o.has 'p' then next := number 'v' 1
          say ['\n']
        else if current.holds l then
          let digits := Text.ofNat next
          let gap := width - digits.length
          let shown := match String.ofList format with
            | "ln" => digits ++ List.replicate gap ' '
            | "rz" => List.replicate gap '0' ++ digits
            | _ => List.replicate gap ' ' ++ digits
          sayLine (shown ++ separator ++ l)
          next := next + step
        else sayLine (List.replicate (width + separator.length) ' ' ++ l)

/-! ## Width -/

/-- The column after a character. -/
def nextColumn (bytes : Bool) (at_ : Nat) (c : Char) : Nat :=
  if bytes then at_ + 1
  else if c = '\t' then (at_ / 8 + 1) * 8
  else if c = '\x08' then at_ - 1
  else if c = '\r' then 0
  else at_ + 1

/-- Cuts a line into pieces of at most a width, at blanks if possible and asked for; `current` is the
    piece so far, in reverse. -/
def foldLine (width : Nat) (bytes atBlanks : Bool) :
    (fuel : Nat) → (current : Octets) → (at_ : Nat) → Octets → List Octets
  | 0, current, _, _ => [current.reverse]
  | _, current, _, [] => [current.reverse]
  | fuel + 1, current, at_, c :: t =>
    let next := nextColumn bytes at_ c
    if next ≤ width || current.isEmpty then foldLine width bytes atBlanks fuel (c :: current) next t
    else
      let after := current.takeWhile fun c => c != ' ' && c != '\t'
      if atBlanks && after.length < current.length then
        let rest := after.reverse ++ c :: t
        (current.drop after.length).reverse :: foldLine width bytes atBlanks fuel [] 0 rest
      else current.reverse :: foldLine width bytes atBlanks fuel [] 0 (c :: t)

/-- Breaks long lines. -/
def fold : Utility Unit := do
  let args := (← read).args.map fun a =>
    match a with
    | '-' :: c :: _ => if c.isDigit then '-' :: 'w' :: a.drop 1 else a
    | _ => a
  let o ← optionsOf {
    plain := "bs", valued := "w", long := [("bytes", 'b'), ("spaces", 's'), ("width", 'w')] } args
  let t := (o.value? 'w').getD "80".toList
  match Text.natBelow? (Nat.pow 2 63) t with
  | none => refuse ("invalid number of columns: ".toList ++ quote t) 1
  | some width =>
    if width = 0 then refuse ("invalid number of columns: ".toList ++ quote t) 1
    forFiles (sources o) id 1 fun _ t =>
      (Text.lines t).forM fun l => do
        let body := if l.getLast? = some '\n' then l.dropLast else l
        say (List.intercalate ['\n'] (foldLine width (o.has 'b') (o.has 's') (3 * l.length + 3) [] 0 body) ++
          l.drop body.length)

/-- The stops of tabs: one distance, or a list of columns. -/
def tabStops? (t : Octets) : Option (List Nat) :=
  (t.splitOnP fun c => c == ',' || c == ' ').mapM (Text.natBelow? (Nat.pow 2 32))

/-- The column of the first tab stop behind a column; behind the last stop of a list there is none. -/
def nextStop (stops : List Nat) (at_ : Nat) : Option Nat :=
  match stops with
  | [n] => if n = 0 then none else some ((at_ / n + 1) * n)
  | _ => stops.find? (at_ < ·)

/-- A line with blanks in place of tabs; with `initial`, only in front of the first other
    character. -/
def expandLine (stops : List Nat) (initial : Bool) : (at_ : Nat) → Octets → Octets
  | _, [] => []
  | at_, c :: t =>
    if c = '\t' then
      let next := (nextStop stops at_).getD (at_ + 1)
      List.replicate (next - at_) ' ' ++ expandLine stops initial next t
    else if initial && c != ' ' then c :: t
    else c :: expandLine stops initial (nextColumn false at_ c) t

/-- The options for tab stops. -/
def stopsOf (o : Options) : Utility (List Nat) := do
  match o.value? 't' with
  | none => return [8]
  | some t =>
    match tabStops? t with
    | some stops => return stops
    | none => refuse ("tab size contains invalid character(s): ".toList ++ quote t) 1

/-- Turns tabs into blanks. -/
def expand : Utility Unit := do
  let o ← options { plain := "i", valued := "t", long := [("initial", 'i'), ("tabs", 't')] }
  let stops ← stopsOf o
  forFiles (sources o) id 1 fun _ t =>
    say ((Text.lines t).map (expandLine stops (o.has 'i') 0)).flatten

/-- A run of blanks from one column to another as tabs and blanks. -/
def tabbed (stops : List Nat) : (fuel : Nat) → (at_ stop : Nat) → Octets
  | 0, _, _ => []
  | fuel + 1, at_, stop =>
    match nextStop stops at_ with
    | some next =>
      if next ≤ stop then '\t' :: tabbed stops fuel next stop else List.replicate (stop - at_) ' '
    | none => List.replicate (stop - at_) ' '

/-- A line with tabs in place of runs of blanks; a single blank behind other characters stays. -/
def unexpandLine (stops : List Nat) (all : Bool) : (fuel : Nat) → (at_ : Nat) → Octets → Octets
  | 0, _, t => t
  | _, _, [] => []
  | fuel + 1, at_, c :: t =>
    if c = ' ' ∨ c = '\t' then
      let run := (c :: t).takeWhile fun c => c == ' ' || c == '\t'
      let stop := run.foldl (fun n c => if c = '\t' then (nextStop stops n).getD (n + 1) else n + 1) at_
      let rest := (c :: t).drop run.length
      let shown := if run = [' '] ∧ at_ ≠ 0 then [' '] else tabbed stops (run.length * 8 + 8) at_ stop
      if all then shown ++ unexpandLine stops all fuel stop rest else shown ++ rest
    else if all then c :: unexpandLine stops all fuel (nextColumn false at_ c) t
    else c :: t

/-- Turns blanks into tabs. -/
def unexpand : Utility Unit := do
  let o ← options {
    plain := "af", valued := "t", long := [("all", 'a'), ("first-only", 'f'), ("tabs", 't')] }
  let stops ← stopsOf o
  let all := (o.has 'a' || o.has 't') && !o.has 'f'
  forFiles (sources o) id 1 fun _ t =>
    say ((Text.lines t).map fun l => unexpandLine stops all (l.length + 1) 0 l).flatten

/-! ## Side by side -/

/-- The marks of a list, with escapes carried out; an empty mark stands for none. -/
def pasteMarks : Octets → List Octets
  | [] => []
  | '\\' :: c :: t =>
    (match c with
      | 'n' => ['\n']
      | 't' => ['\t']
      | '0' => []
      | 'b' => ['\x08']
      | 'f' => ['\x0c']
      | 'r' => ['\r']
      | 'v' => ['\x0b']
      | c => [c]) :: pasteMarks t
  | c :: t => [c] :: pasteMarks t

/-- Fields with marks between them, taken in turn. -/
def joinMarks (marks : List Octets) : (at_ : Nat) → List Octets → Octets
  | _, [] => []
  | _, [a] => a
  | at_, a :: rest => a ++ marks.getD (at_ % marks.length) [] ++ joinMarks marks (at_ + 1) rest

/-- Shares lines out among `n` columns, in turn. -/
def deal (n : Nat) : (fuel : Nat) → List Octets → List (List Octets)
  | 0, _ => []
  | fuel + 1, lines => if lines.isEmpty then [] else lines.take n :: deal n fuel (lines.drop n)

/-- The lines of the files that are joined; the input is shared out among its columns. -/
def pasteColumns (paths : List Octets) (serial : Bool) : Utility (Option (List (List Octets))) := do
  let places := (paths.zipIdx.filter fun (p, _) => p == ['-']).map (·.2)
  let lines ← if places.isEmpty then pure [] else do pure (bareLines (← input))
  let rows := deal places.length (lines.length + 1) lines
  let mut columns : List (List Octets) := []
  let mut failed := false
  for (p, i) in paths.zipIdx do
    match places.idxOf? i with
    | some k =>
      let own := if serial then (if k = 0 then lines else []) else rows.map fun r => r.getD k []
      columns := columns ++ [own]
    | none =>
      match ← content p with
      | .ok t => columns := columns ++ [bareLines t]
      | .error fault =>
        complain (about p fault) 1
        failed := true
  return if failed && !serial then none else some columns

/-- The first `height` rows of columns; where a column has ended, a row has an empty field. -/
def rowsOf : (height : Nat) → List (List Octets) → List (List Octets)
  | 0, _ => []
  | height + 1, columns => columns.map (·.headD []) :: rowsOf height (columns.map (·.drop 1))

/-- Joins lines of files side by side, or the lines of each file. -/
def paste : Utility Unit := do
  let o ← options {
    plain := "sz", valued := "d",
    long := [("serial", 's'), ("delimiters", 'd'), ("zero-terminated", 'z')] }
  let marks := pasteMarks ((o.value? 'd').getD ['\t'])
  let marks := if marks.isEmpty then [[]] else marks
  match ← pasteColumns (sources o) (o.has 's') with
  | none => return ()
  | some columns =>
    if o.has 's' then columns.forM fun ls => sayLine (joinMarks marks 0 ls)
    else
      let height := (columns.map List.length).foldl max 0
      (rowsOf height columns).forM fun row => sayLine (joinMarks marks 0 row)

/-! ## Pieces -/

/-- The ending of the name of a piece. -/
def pieceName (digits : Bool) (width n : Nat) : Octets :=
  let base := if digits then 10 else 26
  let zero := if digits then '0' else 'a'
  (List.range width).reverse.map fun i => Char.ofNat (zero.toNat + n / Nat.pow base i % base)

/-- Cuts a list into pieces of a size; `fuel` bounds their number. -/
def chunks {α : Type} (size : Nat) : (fuel : Nat) → List α → List (List α)
  | 0, _ => []
  | fuel + 1, l => if l.isEmpty then [] else l.take size :: chunks size fuel (l.drop size)

/-- Writes a text to several files. -/
def split : Utility Unit := do
  let o ← options {
    plain := "d", valued := "lban",
    long := [("lines", 'l'), ("bytes", 'b'), ("suffix-length", 'a'), ("numeric-suffixes", 'd'),
      ("number", 'n')] }
  let number (c : Char) : Option Nat := (o.value? c).bind scaledNumber?
  match ← content (o.operands.headD ['-']) with
  | .error fault =>
    complain (about ("cannot open ".toList ++ quote (o.operands.headD []) ++ " for reading".toList) fault) 1
  | .ok t =>
    exhaust
    let size (n total : Nat) : Nat := (total + n - 1) / max n 1
    let pieces : List Octets :=
      match number 'b', number 'n' with
      | some n, _ => chunks (max n 1) (t.length + 1) t
      | none, some n =>
        let each := t.length / max n 1
        (List.range n).map fun i =>
          if i + 1 = n then t.drop (i * each) else (t.drop (i * each)).take each
      | none, none =>
        (chunks (max ((number 'l').getD 1000) 1) (t.length + 1) (Text.lines t)).map List.flatten
    let width := (number 'a').getD (max 2 (size 1 1))
    let stem := o.operands.getD 1 ['x']
    for (piece, i) in pieces.zipIdx do
      discard (store (stem ++ pieceName (o.has 'd') width i) false piece)

end Retouch.Shell.Utility
