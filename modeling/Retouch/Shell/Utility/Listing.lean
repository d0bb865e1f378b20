/-
  Listing of directories.
-/
import Retouch.Shell.Utility.Files
import Retouch.Shell.Utility.Sorting

namespace Retouch.Shell.Utility

/-- Something that is listed: its name as it is shown, its place, and what it is. -/
structure Entry where
  name : Octets
  place : Place
  node : Node

/-! ## Order and names -/

/-- Whether an entry comes before another one, by what is asked for. -/
def entryBefore (o : Options) (a b : Entry) : Bool :=
  let byName := Text.upTo a.name b.name
  match o.last? "SUXtvf" with
  | some 'S' =>
    if nodeSize a.node = nodeSize b.node then byName else nodeSize b.node < nodeSize a.node
  | some 't' =>
    if a.node.info.changed = b.node.info.changed then byName
    else b.node.info.changed < a.node.info.changed
  | some 'X' =>
    let ending (n : Octets) : Octets :=
      if n.contains '.' then '.' :: (n.reverse.takeWhile (· != '.')).reverse else []
    if ending a.name = ending b.name then byName else Text.upTo (ending a.name) (ending b.name)
  | some 'v' => compareVersions a.name b.name != .gt
  | _ => byName

/-- Entries in order. -/
def orderEntries (o : Options) (es : List Entry) : List Entry :=
  let es := if o.last? "SUXtvf" = some 'U' then es else es.mergeSort (entryBefore o)
  let es := if o.has 'r' then es.reverse else es
  if o.has '^' then es.filter (·.node.isDirectory) ++ es.filter fun e => !e.node.isDirectory else es

/-- A name as it is shown. -/
def shownName (o : Options) (n : Octets) : Octets :=
  match o.last? "NQbq" with
  | some 'Q' =>
    '"' :: (n.flatMap fun c =>
      if c = '"' || c = '\\' then ['\\', c] else if isShown c then [c] else escapedChar c) ++ ['"']
  | some 'b' =>
    n.flatMap fun c =>
      if c = ' ' || c = '\\' then ['\\', c] else if isShown c then [c] else escapedChar c
  | some 'q' => n.map fun c => if isShown c then c else '?'
  | _ => n

/-- A sign behind a name for the kind of a node. -/
def kindMark (o : Options) (n : Node) : Octets :=
  match n with
  | .directory _ => if o.has 'F' || o.has 'p' then ['/'] else []
  | .link _ => if o.has 'F' then ['@'] else []
  | n => if o.has 'F' && n.isExecutable then ['*'] else []

/-- The number of blocks of a kilobyte that a node takes. -/
def nodeBlocks : Node → Nat
  | .file content _ => (content.length + 4095) / 4096 * 4
  | .directory _ => 4
  | _ => 0

/-! ## Long lines -/

/-- A size in units that people read. -/
def humanSize (n : Nat) : Octets :=
  let rec go : (fuel : Nat) → (scale : Nat) → List Char → Octets
    | 0, _, _ => Text.ofNat n
    | _, _, [] => Text.ofNat n
    | fuel + 1, scale, unit :: units =>
      let tenths := (n * 10 + scale - 1) / scale
      if tenths < 100 then Text.ofNat (tenths / 10) ++ '.' :: Text.ofNat (tenths % 10) ++ [unit]
      else
        let whole := (n + scale - 1) / scale
        if whole < 1024 || units.isEmpty then Text.ofNat whole ++ [unit]
        else go fuel (scale * 1024) units
  if n < 1024 then Text.ofNat n else go 8 1024 "KMGTPE".toList

/-- The size of a node as it is shown. -/
def shownSize (o : Options) (n : Node) : Octets :=
  match n with
  | .device d => (match d with
    | .null => "1, 3" | .zero => "1, 5" | .full => "1, 7" | .random => "1, 8" | .terminal => "5, 0").toList
  | n => if o.has 'h' then humanSize (nodeSize n) else Text.ofNat (nodeSize n)

/-- When a node was changed, as it is shown. -/
def shownTime (o : Options) (current : Calendar.Moment) (n : Node) : Octets :=
  let micros : Nat := match n with
    | .file _ info | .directory info => info.changed
    | _ => (current.seconds * 1000000).toNat
  let m : Calendar.Moment := { seconds := micros / 1000000, nanos := micros % 1000000 * 1000 }
  let style := (o.value? '%').getD (if o.has '!' then "full-iso".toList else "locale".toList)
  let recent := m.seconds ≤ current.seconds && current.seconds - 15778476 < m.seconds
  match style with
  | '+' :: f => Calendar.strftime m f
  | _ =>
    Calendar.strftime m (match String.ofList style with
      | "full-iso" => "%Y-%m-%d %H:%M:%S.%N %z"
      | "long-iso" => "%Y-%m-%d %H:%M"
      | "iso" => if recent then "%m-%d %H:%M" else "%Y-%m-%d "
      | _ => if recent then "%b %e %H:%M" else "%b %e  %Y").toList

/-- A text with blanks in front of it up to a width. -/
def padLeft (width : Nat) (t : Octets) : Octets := List.replicate (width - t.length) ' ' ++ t

/-- A text with blanks behind it up to a width. -/
def padRight (width : Nat) (t : Octets) : Octets := t ++ List.replicate (width - t.length) ' '

/-- The greatest length of some texts. -/
def widest (ts : List Octets) : Nat := (ts.map List.length).foldl max 0

/-- Whether lines are long. -/
def isLong (o : Options) : Bool :=
  match o.last? "lngo!1Cxm" with
  | some c => "lngo!".toList.contains c || (c == '1' && ['l', 'n', 'g', 'o', '!'].any o.has)
  | none => false

/-- The long lines of entries. -/
def longLines (o : Options) (t : Tree) (current : Calendar.Moment) (es : List Entry) : List Octets :=
  let links (e : Entry) : Octets := Text.ofNat (nodeLinks t e.place e.node)
  let owner : Octets := (if o.has 'n' then "0" else "root").toList
  let linkWidth := widest (es.map links)
  let sizeWidth := widest (es.map fun e => shownSize o e.node)
  es.map fun e =>
    let target : Octets := match e.node with
      | .link to_ => " -> ".toList ++ shownName o to_
      | n => kindMark o n
    let blocks : Octets :=
      if o.has 's' then padLeft (widest (es.map fun e => Text.ofNat (nodeBlocks e.node)))
        (Text.ofNat (nodeBlocks e.node)) ++ [' '] else []
    blocks ++ kindLetter e.node :: modeLetters e.node.info.mode ++ ' ' :: padLeft linkWidth (links e) ++
      (if o.has 'g' then [] else ' ' :: owner) ++ (if o.has 'o' || o.has 'G' then [] else ' ' :: owner) ++
      ' ' :: padLeft sizeWidth (shownSize o e.node) ++ ' ' :: shownTime o current e.node ++ ' ' ::
      shownName o e.name ++ target

/-! ## Columns -/

/-- Blanks from a column to another one; tabs stand for as many as they can. -/
def indent (tab : Nat) : (fuel : Nat) → (from_ target : Nat) → Octets
  | 0, _, _ => []
  | fuel + 1, from_, target =>
    if target ≤ from_ then []
    else if tab ≠ 0 ∧ (from_ + 1) / tab < target / tab then
      '\t' :: indent tab fuel (from_ + tab - from_ % tab) target
    else ' ' :: indent tab fuel (from_ + 1) target

/-- The cells of rows with names in columns, down or across. -/
def cells (across : Bool) (names : List Octets) (columns : Nat) : List (List Octets) :=
  let rows := (names.length + columns - 1) / columns
  if across then chunks columns (names.length + 1) names
  else
    (List.range rows).map fun r =>
      (List.range columns).filterMap fun c => names[c * rows + r]?

/-- The widths of columns, with two blanks behind all but the last. -/
def columnWidths (rows : List (List Octets)) : List Nat :=
  let count := (rows.map List.length).foldl max 0
  (List.range count).map fun c =>
    (rows.map fun r =>
      match r[c]? with
      | some n => n.length + (if c + 1 = count then 0 else 2)
      | none => 0).foldl max 0

/-- The rows with as many columns as fit on a line. -/
def bestCells (across : Bool) (width : Nat) (names : List Octets) : (columns : Nat) → List (List Octets)
  | 0 => names.map ([·])
  | columns + 1 =>
    let rows := cells across names (columns + 1)
    let filled := across || rows.head?.any (·.length == columns + 1)
    if filled && (columnWidths rows).foldl (· + ·) 0 < width then rows
    else bestCells across width names columns

/-- Names in columns. -/
def inColumns (across : Bool) (width tab : Nat) (names : List Octets) : List Octets :=
  let rows := bestCells across width names (min names.length (width / 3 + 1))
  let widths := columnWidths rows
  rows.map fun row =>
    let (line, _, _) := (row.zip widths).foldl
      (fun (line, at_, start) (n, w) =>
        (line ++ indent tab (start - at_ + 1) at_ start ++ n, start + n.length, start + w))
      (([] : Octets), 0, 0)
    line

/-- Names with commas between them, on lines that are not too long. -/
def withCommas (width : Nat) (names : List Octets) : List Octets :=
  let (lines, line) := names.foldl
    (fun (lines, line) n =>
      if line.isEmpty then (lines, n)
      else if line.length + 2 + n.length + 1 < width then (lines, line ++ ", ".toList ++ n)
      else (lines ++ [line ++ [',']], n))
    (([] : List Octets), ([] : Octets))
  if line.isEmpty then lines else lines ++ [line]

/-! ## Listing -/

/-- The lines of entries. -/
def entryLines (o : Options) (t : Tree) (current : Calendar.Moment) (es : List Entry) : List Octets :=
  if isLong o then longLines o t current es
  else
    let blockWidth := widest (es.map fun e => Text.ofNat (nodeBlocks e.node))
    let names := es.map fun e =>
      (if o.has 's' then padLeft blockWidth (Text.ofNat (nodeBlocks e.node)) ++ [' '] else []) ++
        shownName o e.name ++ kindMark o e.node
    let width := ((o.value? 'w').bind (Text.natBelow? 100000)).getD 80
    let tab := ((o.value? 'T').bind (Text.natBelow? 1000)).getD 8
    match o.last? "1Cxm" with
    | some 'C' => if names.isEmpty then [] else inColumns false width tab names
    | some 'x' => if names.isEmpty then [] else inColumns true width tab names
    | some 'm' => withCommas width names
    | _ => names

/-- Whether a name is shown at all. -/
def isListed (o : Options) (n : Octets) : Bool :=
  let hidden (p : Octets) : Bool := (Glob.ofMarked (p.map fun c => (c, false))).accepts n
  (o.has 'a' || o.has 'A' || o.has 'f' || n.head? != some '.') && !(o.has 'B' && n.getLast? = some '~') &&
    !(o.values 'I').any hidden && (o.has 'a' || o.has 'A' || !(o.values '#').any hidden)

/-- The entries of a directory. -/
def entriesOf (o : Options) (t : Tree) (place : Place) : List Entry :=
  let entry (name : Octets) (p : Place) : Option Entry := (t.node? p).map fun n => ⟨name, p, n⟩
  let follow (e : Entry) : Entry :=
    match o.has 'L', e.node, t.get place e.name with
    | true, .link _, .ok n => { e with node := n }
    | _, _, _ => e
  let names := (t.list place).filter (isListed o)
  let own := names.filterMap fun n => entry n (place ++ [n])
  let dots := if o.last? "aA" = some 'a' || o.has 'f' then
      [entry ['.'] place, entry ['.', '.'] place.dropLast].filterMap id
    else []
  (orderEntries o (dots ++ own)).map follow

/-- The lines of a directory, and of those below it if they are asked for; `depth` bounds them. -/
def directoryLines (o : Options) (t : Tree) (current : Calendar.Moment) (titled : Bool) :
    (depth : Nat) → Octets → Place → List (List Octets)
  | 0, _, _ => []
  | depth + 1, shown, place =>
    let es := entriesOf o t place
    let total := (es.map fun e => nodeBlocks e.node).foldl (· + ·) 0
    let title : List Octets := if titled then [shown ++ [':']] else []
    let sum : List Octets :=
      if isLong o || o.has 's' then
        ["total ".toList ++ (if o.has 'h' then humanSize (total * 1024) else Text.ofNat total)] else []
    let block := title ++ sum ++ entryLines o t current es
    let deeper := if o.has 'R' then
        es.filter fun e => e.node.isDirectory && e.name != ['.'] && e.name != ['.', '.']
      else []
    block :: deeper.flatMap fun e => directoryLines o t current titled depth (inside shown e.name) e.place

/-- The options of `ls`. -/
def lsGrammar : Grammar where
  plain := "1aAbBcCd^!fFgGHhiklmnNopqQrRsStuUvxXLZ"
  valued := "wTI#%"
  optional := "@"
  long := [("all", 'a'), ("almost-all", 'A'), ("escape", 'b'), ("ignore-backups", 'B'), ("directory", 'd'),
    ("classify", 'F'), ("group-directories-first", '^'), ("no-group", 'G'), ("human-readable", 'h'),
    ("inode", 'i'), ("ignore", 'I'), ("hide", '#'), ("kibibytes", 'k'), ("dereference", 'L'),
    ("numeric-uid-gid", 'n'), ("literal", 'N'), ("hide-control-chars", 'q'), ("quote-name", 'Q'),
    ("reverse", 'r'), ("recursive", 'R'), ("size", 's'), ("width", 'w'), ("tabsize", 'T'),
    ("full-time", '!'), ("time-style", '%'), ("color", '@')]
  status := 2

/-- Lists files and directories. -/
def ls : Utility Unit := do
  let o ← options lsGrammar
  let operands := if o.operands.isEmpty then [['.']] else o.operands
  let tree := (← get).tree
  let current ← now
  let keep := isLong o || o.has 'd' || o.has 'F'
  let mut found : List Entry := []
  for p in operands do
    let node ← if keep && !o.has 'L' then linkAt p else nodeAt p
    let place ← if keep && !o.has 'L' then linkPlaceOf p else placeOf p
    match node, place with
    | .ok n, .ok place => found := found ++ [⟨p, place, n⟩]
    | .error fault, _ | _, .error fault =>
      match ← linkAt p, ← linkPlaceOf p with
      | .ok n, .ok place => found := found ++ [⟨p, place, n⟩]
      | _, _ => blame "cannot access " p fault 2
  let isListedInside (e : Entry) : Bool := !o.has 'd' && e.node.isDirectory
  let files := orderEntries o (found.filter fun e => !isListedInside e)
  let dirs := orderEntries o (found.filter isListedInside)
  let fileBlock := if files.isEmpty then [] else [entryLines o tree current files]
  let titled := operands.length > 1 || o.has 'R'
  let blocks := fileBlock ++ dirs.flatMap fun e => directoryLines o tree current titled copyDepth e.name e.place
  say (List.intercalate ['\n'] (blocks.map fun b => (b.map endLine).flatten))

end Retouch.Shell.Utility
