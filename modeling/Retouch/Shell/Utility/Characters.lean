/-
  Utilities on the characters of lines and files: parts of lines, replacement of characters, and the
  numbers of bytes.
-/
import Retouch.Shell.Utility.Texts

namespace Retouch.Shell.Utility

/-! ## Parts of lines -/

/-- Positions from a first one to a last one, if there is a last. -/
abbrev Span := Nat × Option Nat

/-- What `cut` calls the positions that it counts. -/
structure CutNames where
  zero : String
  invalid : String

/-- The span that a part of a list describes. -/
def readSpan (names : CutNames) (t : Octets) : Except Octets Span := do
  let number (d : Octets) : Except Octets Nat :=
    if d.all Char.isDigit then .ok (Text.digitsValue d)
    else .error (names.invalid.toList ++ ' ' :: quote (d.dropWhile Char.isDigit))
  let low := t.takeWhile (· != '-')
  if low.length = t.length then
    let n ← number t
    if n = 0 then .error names.zero.toList else return (n, some n)
  else
    let high := t.drop (low.length + 1)
    if low.isEmpty ∧ high.isEmpty then .error "invalid range with no endpoint: -".toList
    else
      let a ← if low.isEmpty then pure 1 else number low
      if a = 0 then .error names.zero.toList
      else if high.isEmpty then return (a, none)
      else
        let b ← number high
        if b < a then .error "invalid decreasing range".toList else return (a, some b)

/-- The spans of a list such as `1,3-5`. -/
def readSpans (names : CutNames) (t : Octets) : Except Octets (List Span) :=
  (t.splitOnP fun c => c == ',' || c == ' ' || c == '\t').mapM (readSpan names)

/-- Whether a position lies in one of some spans. -/
def inSpans (spans : List Span) (n : Nat) : Bool := spans.any fun s => s.1 ≤ n && n ≤ s.2.getD n

/-- Characters in some spans; where a span ends and another one starts, `mark` stands between. -/
def cutChars (chosen : Nat → Bool) (starts : Nat → Bool) (mark : Octets) (l : Octets) : Octets :=
  let picked := (l.zipIdx 1).filter fun (_, i) => chosen i
  (picked.mapIdx fun k (c, i) => if 0 < k && starts i then mark ++ [c] else [c]).flatten

/-- Selects parts of lines. -/
def cut : Utility Unit := do
  let o ← options {
    plain := "snz!", valued := "bcfd%"
    long := [("bytes", 'b'), ("characters", 'c'), ("fields", 'f'), ("delimiter", 'd'),
      ("only-delimited", 's'), ("complement", '!'), ("output-delimiter", '%'),
      ("zero-terminated", 'z')] }
  let lists := o.flags.filter fun f => f.1 == 'b' || f.1 == 'c' || f.1 == 'f'
  match lists with
  | [] => misuse "you must specify a list of bytes, characters, or fields".toList 1
  | _ :: _ :: _ => misuse "only one list may be specified".toList 1
  | [(kind, list)] =>
    match o.value? 'd' with
    | some (_ :: _ :: _) => misuse "the delimiter must be a single character".toList 1
    | _ => pure ()
    if kind ≠ 'f' ∧ o.has 'd' then
      misuse "an input delimiter may be specified only when operating on fields".toList 1
    if kind ≠ 'f' ∧ o.has 's' then
      misuse "suppressing non-delimited lines makes sense\n\tonly when operating on fields".toList 1
    let names : CutNames :=
      if kind = 'f' then ⟨"fields are numbered from 1", "invalid field value"⟩
      else ⟨"byte/character positions are numbered from 1", "invalid byte/character position"⟩
    let spans ← match readSpans names list with
      | .ok s => pure s
      | .error m => misuse m 1
    let chosen (n : Nat) : Bool := inSpans spans n != o.has '!'
    let mark := if o.has 'z' then '\x00' else '\n'
    let lines (t : Octets) : List Octets := if o.has 'z' then records mark t else bareLines t
    if kind = 'f' then
      let separator := ((o.value? 'd').map fun d => d.headD '\x00').getD '\t'
      let joint := (o.value? '%').getD [separator]
      forFiles (sources o) id 1 fun _ t =>
        (lines t).forM fun l => do
          if l.contains separator then
            let fields := ((l.splitOnP (· == separator)).zipIdx 1).filterMap fun (f, i) =>
              if chosen i then some f else none
            say (List.intercalate joint fields ++ [mark])
          else if !o.has 's' then say (l ++ [mark])
    else
      let starts (n : Nat) : Bool :=
        if o.has '!' then !chosen (n - 1)
        else !chosen (n - 1) || spans.any fun s => s.1 == n && !spans.any fun r => r.1 < n && n ≤ r.2.getD n
      forFiles (sources o) id 1 fun _ t =>
        (lines t).forM fun l => say (cutChars chosen starts ((o.value? '%').getD []) l ++ [mark])

/-! ## Replacement of characters -/

/-- A part of a set of characters. -/
inductive TrPart where
  | chars (cs : Octets)
  | letters (upper : Bool)
  | other (cs : Octets)
  /-- A character that is repeated; no number fills the set up. -/
  | repeated (c : Char) (n : Option Nat)

/-- A character of a set, whether it is escaped, and the length of its text. -/
def trChar (t : Octets) : Option (Char × Bool × Nat) :=
  match t with
  | [] => none
  | '\\' :: r =>
    match r with
    | [] => some ('\\', true, 1)
    | c :: _ =>
      if c = 'e' then some ('e', true, 2)
      else
        match Format.escape? r with
        | some (d, n) => some (d, true, n + 1)
        | none => some (c, true, 2)
  | c :: _ => some (c, false, 1)

/-- The characters of a class, in order. -/
def classChars (name : Octets) : Octets :=
  ((List.range 256).map Char.ofNat).filter (Glob.inRanges (Glob.classRanges name))

/-- A part between brackets, and the length of its text. -/
def trBracket? (t : Octets) : Option (Except Octets (TrPart × Nat)) :=
  match t with
  | '[' :: ':' :: r =>
    (Regex.markedName? ':' r).map fun name =>
      match String.ofList name with
      | "upper" => .ok (.letters true, 9)
      | "lower" => .ok (.letters false, 9)
      | n =>
        if Regex.classNames.contains n then .ok (.other (classChars name), name.length + 4)
        else .error ("invalid character class ".toList ++ quote name)
  | '[' :: '=' :: r =>
    match Regex.markedName? '=' r with
    | some [c] => some (.ok (.chars [c], 5))
    | _ => none
  | '[' :: r => do
    let (c, _, n) ← trChar r
    match r.drop n with
    | '*' :: s =>
      let digits := s.takeWhile Char.isDigit
      match s.drop digits.length with
      | ']' :: _ =>
        let count :=
          if digits.head? = some '0' then digits.foldl (fun v d => 8 * v + (d.toNat - 48)) 0
          else Text.digitsValue digits
        some (.ok (.repeated c (if count = 0 then none else some count), n + digits.length + 3))
      | _ => none
    | _ => none
  | _ => none

/-- The parts of a set of characters; `fuel` bounds its length. -/
def readTr : (fuel : Nat) → Octets → Except Octets (List TrPart)
  | 0, _ => .ok []
  | fuel + 1, t =>
    match trBracket? t with
    | some (.ok (part, n)) => return part :: (← readTr fuel (t.drop n))
    | some (.error m) => .error m
    | none =>
      match trChar t with
      | none => .ok []
      | some (c, _, n) =>
        let rest := t.drop n
        match rest with
        | '-' :: r =>
          match trChar r with
          | some (d, _, k) =>
            if d < c then
              .error ("range-endpoints of ".toList ++ quote (t.take (n + 1 + k)) ++
                " are in reverse collating sequence order".toList)
            else do
              let codes := (List.range (d.toNat + 1)).drop c.toNat
              return .chars (codes.map Char.ofNat) :: (← readTr fuel (r.drop k))
          | none => return .chars [c] :: (← readTr fuel rest)
        | _ => return .chars [c] :: (← readTr fuel rest)

/-- The characters of a part; one that fills up does so to `fill`. -/
def TrPart.chars_ (fill : Nat) : TrPart → Octets
  | .chars cs | .other cs => cs
  | .letters upper => classChars (if upper then "upper" else "lower").toList
  | .repeated c n => List.replicate (n.getD fill) c

/-- The number of characters of parts without one that fills up. -/
def trSize (parts : List TrPart) : Nat :=
  parts.foldl (fun n p => n + match p with | .repeated _ none => 0 | p => (p.chars_ 0).length) 0

/-- The characters of parts; one that fills up does so to a whole size. -/
def trChars (size : Nat) (parts : List TrPart) : Octets :=
  parts.flatMap (TrPart.chars_ (size - trSize parts))

/-- Where the classes of letters start in a set. -/
def letterPlaces : (at_ : Nat) → List TrPart → List Nat
  | _, [] => []
  | at_, p :: parts =>
    let rest := letterPlaces (at_ + (p.chars_ 0).length) parts
    match p with
    | .letters _ => at_ :: rest
    | _ => rest

/-- Runs of a character in a set become one. -/
def squeeze (set : Char → Bool) : Octets → Octets
  | [] => []
  | c :: t =>
    match squeeze set t with
    | [] => [c]
    | d :: r => if c = d ∧ set c then d :: r else c :: d :: r

/-- The table of replacements from characters to characters; the last pair counts. -/
def trTable (one two : Octets) : Array Char :=
  let last := two.getLast?
  let two := two ++ List.replicate (one.length - two.length) (last.getD ' ')
  (one.zip two).foldl (fun table (a, b) => table.setIfInBounds a.toNat b)
    ((Array.range 256).map Char.ofNat)

/-- Replaces, deletes or squeezes characters. -/
def tr : Utility Unit := do
  let o ← options {
    plain := "dscCt", inFront := true
    long := [("delete", 'd'), ("squeeze-repeats", 's'), ("complement", 'c'), ("truncate-set1", 't')] }
  let complement := o.has 'c' || o.has 'C'
  let deletes := o.has 'd'
  let squeezes := o.has 's'
  let parts (t : Octets) : Utility (List TrPart) :=
    match readTr (t.length + 1) t with
    | .ok ps => return ps
    | .error m => refuse m 1
  let hint (t : String) : Utility Unit := do
    warn (t ++ "\nTry 'tr --help' for more information.\n").toList
    throw ()
  let least := if deletes == squeezes then 2 else 1
  let most := if deletes && !squeezes then 1 else 2
  match o.operands with
  | [] => misuse "missing operand".toList 1
  | [one] =>
    if least = 2 then
      complain ("missing operand after ".toList ++ quote one) 1
      hint (if squeezes then "Two strings must be given when both deleting and squeezing repeats."
        else "Two strings must be given when translating.")
  | _ :: two :: rest =>
    if o.operands.length > most then
      let extra := if most = 1 then two else rest.headD []
      complain ("extra operand ".toList ++ quote extra) 1
      if most = 1 && rest.isEmpty then
        hint "Only one string may be given when deleting without squeezing repeats."
      else hint ""
  let first ← parts (o.operands.headD [])
  if first.any fun | .repeated _ _ => true | _ => false then
    refuse "the [c*] repeat construct may not appear in string1".toList 1
  let listed := trChars 0 first
  let isIn (c : Char) : Bool := listed.contains c
  let one : Octets :=
    if complement then ((List.range 256).map Char.ofNat).filter fun c => !isIn c else listed
  let inOne := fun c => isIn c != complement
  match o.operands.drop 1 with
  | [] =>
    let t ← input
    if deletes then say (t.filter fun c => !inOne c) else say (squeeze inOne t)
  | second :: _ =>
    let second ← parts second
    if deletes then
      let two := trChars 0 second
      say (squeeze two.contains ((← input).filter fun c => !inOne c))
    else
      if second.any fun | .other _ => true | _ => false then
        refuse ("when translating, the only character classes that may appear in\n" ++
          "string2 are 'upper' and 'lower'").toList 1
      let two := trChars one.length second
      if two.isEmpty && !o.has 't' then
        refuse "when not truncating set1, string2 must be non-empty".toList 1
      if !(letterPlaces 0 second).all (letterPlaces 0 first).contains then
        refuse "misaligned [:upper:] and/or [:lower:] construct".toList 1
      let classes := first.any fun | .letters _ | .other _ => true | _ => false
      if complement && classes && (two.drop 1).any (some · != two.head?) then
        refuse ("when translating with complemented character classes,\n" ++
          "string2 must map all characters in the domain to one").toList 1
      let table := trTable (if o.has 't' then one.take two.length else one) two
      let t := (← input).map fun c => table.getD c.toNat c
      say (if squeezes then squeeze two.contains t else t)

/-! ## Numbers of bytes -/

/-- How bytes are shown: a kind, the number of bytes in a field, and whether characters follow. -/
structure OdFormat where
  kind : Char
  size : Nat
  text : Bool := false

/-- The width of a field without the blank in front of it. -/
def OdFormat.width (f : OdFormat) : Nat :=
  let bits := 8 * f.size
  match f.kind with
  | 'x' => 2 * f.size
  | 'o' => (bits + 2) / 3
  | 'u' => (Text.ofNat (Nat.pow 2 bits - 1)).length
  | 'd' => (Text.ofNat (Nat.pow 2 (bits - 1))).length + 1
  | 'f' => if f.size = 4 then 15 else if f.size = 8 then 24 else 28
  | _ => 3

/-- The names of control characters. -/
def controlNames : List String :=
  ["nul", "soh", "stx", "etx", "eot", "enq", "ack", "bel", "bs", "ht", "nl", "vt", "ff", "cr", "so",
    "si", "dle", "dc1", "dc2", "dc3", "dc4", "nak", "syn", "etb", "can", "em", "sub", "esc", "fs", "gs",
    "rs", "us", "sp"]

/-- Digits of a number in a base, with zeros in front. -/
def zeroDigits (base width n : Nat) : Octets :=
  let digits := Nat.toDigits base n
  List.replicate (width - digits.length) '0' ++ digits

/-- The fewest digits, at least `least`, with which a number reads back; `fuel` bounds them. -/
def shortestGeneral (layout : Decimal.Layout) (x : Decimal.Exact) (m : Nat) (q : Int) :
    (fuel : Nat) → (digits : Nat) → Octets
  | 0, digits =>
    let (num, den) := Decimal.fractionOf m q
    Decimal.generalText digits false num den
  | fuel + 1, digits =>
    let (num, den) := Decimal.fractionOf m q
    let t := Decimal.generalText digits false num den
    match Decimal.readNumeral? t, x with
    | some (.ratio _ a b, _), .finite negative _ _ =>
      if layout.round (.ratio negative a b) = x then t
      else shortestGeneral layout x m q fuel (digits + 1)
    | _, _ => t

/-- The text of a floating-point number with some bits. -/
def floatField (size bits : Nat) : Octets :=
  let (fraction, layout) : Nat × Decimal.Layout :=
    if size = 4 then (23, ⟨24, -149, 104⟩) else (52, .double)
  let width := 8 * size - 1 - fraction
  let negative := bits / Nat.pow 2 (8 * size - 1) % 2 == 1
  let e := bits / Nat.pow 2 fraction % Nat.pow 2 width
  let m := bits % Nat.pow 2 fraction
  let sign : Octets := if negative then ['-'] else []
  if e = Nat.pow 2 width - 1 then sign ++ (if m = 0 then "inf" else "nan").toList
  else
    let (m, q) : Nat × Int :=
      if e = 0 then (m, layout.least) else (m + Nat.pow 2 fraction, layout.least + (e : Int) - 1)
    sign ++ shortestGeneral layout (.finite negative m q) m q 20 (if size = 4 then 6 else 15)

/-- The text of a field. -/
def OdFormat.field (f : OdFormat) (bytes : Octets) : Octets :=
  let n := bytes.reverse.foldl (fun v c => 256 * v + c.toNat) 0
  match f.kind with
  | 'x' => zeroDigits 16 f.width n
  | 'o' => zeroDigits 8 f.width n
  | 'u' => Text.ofNat n
  | 'd' =>
    let half := Nat.pow 2 (8 * f.size - 1)
    if half ≤ n then '-' :: Text.ofNat (2 * half - n) else Text.ofNat n
  | 'f' => floatField f.size n
  | 'a' =>
    let c := n % 128
    if c = 127 then "del".toList else (controlNames[c]?).elim [Char.ofNat c] String.toList
  | _ =>
    match Char.ofNat n with
    | '\x00' => "\\0".toList
    | '\x07' => "\\a".toList
    | '\x08' => "\\b".toList
    | '\t' => "\\t".toList
    | '\n' => "\\n".toList
    | '\x0b' => "\\v".toList
    | '\x0c' => "\\f".toList
    | '\r' => "\\r".toList
    | c => if ' ' ≤ c && c ≤ '~' then [c] else zeroDigits 8 3 n

/-- The size that letters or digits give a kind. -/
def odSize (kind : Char) (t : Octets) : Nat × Octets :=
  let digits := t.takeWhile Char.isDigit
  if !digits.isEmpty then (Text.digitsValue digits, t.drop digits.length)
  else
    match t with
    | 'C' :: r => (1, r)
    | 'S' :: r => (2, r)
    | 'I' :: r => (4, r)
    | 'L' :: r => (8, r)
    | 'F' :: r => (4, r)
    | 'D' :: r => (8, r)
    | _ => (if kind = 'f' then 8 else 4, t)

/-- The formats that a text names; `fuel` bounds them. -/
def readOdFormats (whole : Octets) : (fuel : Nat) → Octets → Except Octets (List OdFormat)
  | 0, _ => .ok []
  | _, [] => .ok []
  | fuel + 1, k :: t =>
    let finish (f : OdFormat) (t : Octets) : Except Octets (List OdFormat) := do
      match t with
      | 'z' :: r => return { f with text := true } :: (← readOdFormats whole fuel r)
      | r => return f :: (← readOdFormats whole fuel r)
    if k = 'a' ∨ k = 'c' then finish { kind := k, size := 1 } t
    else if "douxf".toList.contains k then
      let (size, t) := odSize k t
      if [1, 2, 4, 8].contains size then finish { kind := k, size := size } t
      else
        .error ("invalid type string ".toList ++ quote whole ++ ";\nthis system doesn't provide a ".toList ++
          Text.ofNat size ++ "-byte integral type".toList)
    else .error ("invalid character ".toList ++ quote [k] ++ " in type string ".toList ++ quote whole)

/-- Fields with blanks in front of them so that they fill a width together. -/
def spreadFields (fields : List Octets) (width count pad : Nat) : Octets :=
  (fields.mapIdx fun i f =>
    let before := pad * (count - i) / count
    let after := pad * (count - i - 1) / count
    List.replicate (before - after + 1 + (width - f.length)) ' ' ++ f).flatten

/-- The rows of a block of bytes. -/
def odRows (formats : List OdFormat) (line : Nat) (block : Octets) : List Octets :=
  let full (f : OdFormat) : Nat := line / f.size * (f.width + 1)
  let widest := (formats.map full).foldl max 0
  formats.map fun f =>
    let count := line / f.size
    let pieces := (chunks f.size (block.length + 1) block).map fun p =>
      f.field (p ++ List.replicate (f.size - p.length) '\x00')
    let row := spreadFields pieces f.width count (widest - full f)
    if f.text then
      let gap := List.replicate (widest - row.length) ' '
      row ++ gap ++ "  >".toList ++ block.map (fun c => if ' ' ≤ c && c ≤ '~' then c else '.') ++ ['<']
    else row

/-- An offset in front of a row. -/
def odOffset (radix : Char) (n : Nat) : Octets :=
  match radix with
  | 'x' => zeroDigits 16 6 n
  | 'd' => zeroDigits 10 7 n
  | 'n' => []
  | _ => zeroDigits 8 7 n

/-- The letters that stand for formats. -/
def odShort (c : Char) : Option String :=
  match c with
  | 'a' => some "a"
  | 'b' => some "o1"
  | 'c' => some "c"
  | 'd' => some "u2"
  | 'f' => some "fF"
  | 'i' => some "dI"
  | 'l' => some "dL"
  | 'o' => some "o2"
  | 's' => some "d2"
  | 'x' | 'h' => some "x2"
  | _ => none

/-- Shows the bytes of files. -/
def od : Utility Unit := do
  let o ← options {
    plain := "abcdfhiloxsv", valued := "AjNt", optional := "w"
    long := [("address-radix", 'A'), ("skip-bytes", 'j'), ("read-bytes", 'N'), ("format", 't'),
      ("output-duplicates", 'v'), ("width", 'w')] }
  let mut formats : List OdFormat := []
  for (c, v) in o.flags do
    let text := if c = 't' then some v else (odShort c).map String.toList
    match text with
    | none => pure ()
    | some t =>
      match readOdFormats t (t.length + 1) t with
      | .ok fs => formats := formats ++ fs
      | .error m => refuse m 1
  if formats.isEmpty then formats := [{ kind := 'o', size := 2 }]
  let mut bytes : Octets := []
  for p in sources o do
    match ← content p with
    | .ok t => bytes := bytes ++ t
    | .error fault => complain (about p fault) 1
  let skip := ((o.value? 'j').bind scaledNumber?).getD 0
  let rest := bytes.drop skip
  let rest := match (o.value? 'N').bind scaledNumber? with | some n => rest.take n | none => rest
  if o.has 'N' then settle
  let line := match o.value? 'w' with
    | some t => (Text.natBelow? (Nat.pow 2 31) t).getD 32
    | none => 16
  let radix := ((o.value? 'A').bind List.head?).getD 'o'
  let margin := (odOffset radix 0).length
  let mut before : Option Octets := none
  let mut starred := false
  let mut offset := skip
  if (← get).status = 0 || !rest.isEmpty then
    for block in chunks line (rest.length + 1) rest do
      if !o.has 'v' && before == some block && block.length = line then
        if !starred then say "*\n".toList
        starred := true
      else
        starred := false
        for (row, i) in (odRows formats line block).zipIdx do
          sayLine ((if i = 0 then odOffset radix offset else List.replicate margin ' ') ++ row)
      before := some block
      offset := offset + block.length
    if radix ≠ 'n' then sayLine (odOffset radix offset)

end Retouch.Shell.Utility
