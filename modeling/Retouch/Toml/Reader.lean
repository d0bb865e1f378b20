/-
  Reading of TOML documents.

  A text is read line by line into headers and assignments; values may run over several lines.
  Numbers, dates, strings in their four forms, arrays and tables between braces are read into
  values.  What is nested too deeply is refused.
-/
import Retouch.Json.Reader
import Retouch.Toml.Basic
import Retouch.Toml.Date

namespace Retouch.Toml

/-! ## Blanks and comments -/

/-- Characters that may stand in comments and strings as they are. -/
def isPlain (c : Char) : Bool := c == '\t' || (0x20 ≤ c.toNat && c.toNat != 0x7F)

/-- The text without the spaces and tabs at its start. -/
def skipPadding (t : Text) : Text := t.dropWhile Text.isPadding

/-- What follows a line end at the start of a text. -/
def newline? : Text → Option Text
  | '\n' :: t => some t
  | '\r' :: '\n' :: t => some t
  | _ => none

/-- The text without a comment at its start. -/
def skipComment (t : Text) : Text :=
  match t with
  | '#' :: r => r.dropWhile isPlain
  | _ => t

/-- What follows the end of a line: padding, perhaps a comment, and a line end or the end of the
    text. -/
def endLine? (t : Text) : Option Text :=
  let t := skipComment (skipPadding t)
  if t.isEmpty then some [] else newline? t

/-- The text without the padding, comments and line ends at its start; `fuel` bounds the lines. -/
def skipLines : (fuel : Nat) → Text → Text
  | 0, t => t
  | fuel + 1, t =>
    let t := skipComment (skipPadding t)
    match newline? t with
    | some t => skipLines fuel t
    | none => t

/-- The text without the padding, comments and line ends at its start. -/
def skipBlank (t : Text) : Text := skipLines (t.length + 1) t

/-! ## Strings -/

/-- The character with a code point given in hexadecimal digits. -/
def codePoint? (digits : Text) : Option Char := do
  let n ← Json.hexNumber? digits
  if n < 0xD800 ∨ (0xE000 ≤ n ∧ n < 0x110000) then some (Char.ofNat n) else none

/-- The character that an escape stands for, whose backslash has been read, and what follows it. -/
def readEscape? : Text → Option (Char × Text)
  | 'b' :: t => some (Char.ofNat 0x08, t)
  | 't' :: t => some ('\t', t)
  | 'n' :: t => some ('\n', t)
  | 'f' :: t => some (Char.ofNat 0x0C, t)
  | 'r' :: t => some ('\r', t)
  | '"' :: t => some ('"', t)
  | '\\' :: t => some ('\\', t)
  | 'u' :: t => if t.length < 4 then none else (codePoint? (t.take 4)).map (·, t.drop 4)
  | 'U' :: t => if t.length < 8 then none else (codePoint? (t.take 8)).map (·, t.drop 8)
  | _ => none

/-- The rest of a string between double quotes; `fuel` bounds its length. -/
def readBasic? : (fuel : Nat) → Text → Option (Text × Text)
  | 0, _ => none
  | _, [] => none
  | fuel + 1, c :: t =>
    if c = '"' then some ([], t)
    else if c = '\\' then do
      let (e, t) ← readEscape? t
      let (s, rest) ← readBasic? fuel t
      return (e :: s, rest)
    else if isPlain c then do
      let (s, rest) ← readBasic? fuel t
      return (c :: s, rest)
    else none

/-- The rest of a string between single quotes. -/
def readLiteral? (t : Text) : Option (Text × Text) :=
  let body := t.takeWhile fun c => isPlain c && c != '\''
  match t.drop body.length with
  | '\'' :: rest => some (body, rest)
  | _ => none

/-- What follows a backslash at the end of a line: all blanks and line ends are passed over; `fuel`
    bounds their number. -/
def skipContinuation : (fuel : Nat) → Text → Text
  | 0, t => t
  | fuel + 1, t =>
    match newline? (skipPadding t) with
    | some t => skipContinuation fuel t
    | none => skipPadding t

/-- What follows a run of at least three quotes that ends a string, and how many of the quotes belong
    to the string. -/
def closing (quotes : Nat) : Nat := min (quotes - 3) 2

/-- The rest of a string over several lines between the quotes `q`, with escapes if they are double;
    `fuel` bounds its length. -/
def readLong? (q : Char) : (fuel : Nat) → Text → Option (Text × Text)
  | 0, _ => none
  | _, [] => none
  | fuel + 1, c :: t =>
    if c = q then
      let n := ((c :: t).takeWhile (· == q)).length
      if 3 ≤ n then some (List.replicate (closing n) q, (c :: t).drop (closing n + 3))
      else do
        let (s, rest) ← readLong? q fuel t
        return (c :: s, rest)
    else if c = '\\' ∧ q = '"' then
      match newline? (skipPadding t) with
      | some _ => readLong? q fuel (skipContinuation (t.length + 1) t)
      | none => do
        let (e, t) ← readEscape? t
        let (s, rest) ← readLong? q fuel t
        return (e :: s, rest)
    else
      match newline? (c :: t) with
      | some t => do
        let (s, rest) ← readLong? q fuel t
        return ('\n' :: s, rest)
      | none =>
        if isPlain c then do
          let (s, rest) ← readLong? q fuel t
          return (c :: s, rest)
        else none

/-- A string on one line, which is also a key. -/
def readShort? : Text → Option (Text × Text)
  | '"' :: t => readBasic? (t.length + 1) t
  | '\'' :: t => readLiteral? t
  | _ => none

/-- A string in any form. -/
def readString? : Text → Option (Text × Text)
  | '"' :: '"' :: '"' :: t => readLong? '"' (t.length + 1) ((newline? t).getD t)
  | '\'' :: '\'' :: '\'' :: t => readLong? '\'' (t.length + 1) ((newline? t).getD t)
  | t => readShort? t

/-! ## Keys -/

/-- Characters of a key without quotes. -/
def isKeyChar (c : Char) : Bool := c.isAlphanum || c == '_' || c == '-'

/-- A key by itself. -/
def readKeyPart? (t : Text) : Option (Text × Text) :=
  match t with
  | '"' :: _ => readShort? t
  | '\'' :: _ => readShort? t
  | _ =>
    let key := t.takeWhile isKeyChar
    if key.isEmpty then none else some (key, t.drop key.length)

/-- A sequence of keys with dots between them, and padding around each; `fuel` bounds them. -/
def readKeys? : (fuel : Nat) → Text → Option (List Text × Text)
  | 0, _ => none
  | fuel + 1, t => do
    let (key, t) ← readKeyPart? (skipPadding t)
    match skipPadding t with
    | '.' :: t =>
      let (keys, rest) ← readKeys? fuel t
      return (key :: keys, rest)
    | rest => return ([key], rest)

/-- Fewer keys than this make up a sequence, and fewer arrays and tables than this stand in each
    other. -/
def nestingLimit : Nat := 80

/-- A sequence of keys, as the keys on the way and the last one. -/
def readKey? (t : Text) : Option (List Text × Text × Text) := do
  let (keys, rest) ← readKeys? (t.length + 1) t
  if keys.length < nestingLimit then return (keys.dropLast, keys.getLast?.getD [], rest) else none

/-! ## Numbers -/

/-- The digits of a text in which single underscores stand between digits. -/
def groupedDigits? (isDigit : Char → Bool) (t : Text) : Option Text :=
  let groups := t.splitOnP (· == '_')
  if groups.all fun g => !g.isEmpty && g.all isDigit then some groups.flatten else none

/-- A whole number in decimal digits without a sign, which has no needless zero in front. -/
def whole? (t : Text) : Option Text := do
  let digits ← groupedDigits? Char.isDigit t
  if digits.head? = some '0' ∧ 1 < t.length then none else some digits

/-- The sign of a number and what follows it. -/
def readSign (t : Text) : Bool × Text :=
  match t with
  | '+' :: r => (false, r)
  | '-' :: r => (true, r)
  | _ => (false, t)

/-- Integers have 64 bits. -/
def fits (n : Int) : Bool := -(Nat.pow 2 63 : Int) ≤ n && n < Nat.pow 2 63

/-- The value of digits in a base. -/
def radixValue? (isDigit : Char → Bool) (base : Nat) (t : Text) : Option Int := do
  let digits ← groupedDigits? isDigit t
  let n ← digits.foldlM (fun n c => (Json.hexValue? c).map (base * n + ·)) 0
  if fits n then some (n : Int) else none

/-- An integer. -/
def int? (t : Text) : Option Int :=
  match t with
  | '0' :: 'x' :: r => radixValue? (fun c => (Json.hexValue? c).isSome) 16 r
  | '0' :: 'o' :: r => radixValue? (fun c => '0' ≤ c && c ≤ '7') 8 r
  | '0' :: 'b' :: r => radixValue? (fun c => c == '0' || c == '1') 2 r
  | _ => do
    let (negative, t) := readSign t
    let digits ← whole? t
    let n : Int := Text.digitsValue digits
    let n := if negative then -n else n
    if fits n then some n else none

/-- An exponent, whose mark has been read. -/
def exponent? (t : Text) : Option Int := do
  let (negative, t) := readSign t
  let digits ← groupedDigits? Char.isDigit t
  let n : Int := Text.digitsValue digits
  return if negative then -n else n

/-- The number `n · 10 ^ e`.  A number of more than 309 digits is infinite, and one that starts
    behind 324 decimal places is zero. -/
def scientific (n : Nat) (e : Int) : Float :=
  let point := ((Text.ofNat n).length : Int) + e
  if n = 0 ∨ point ≤ -324 then 0
  else if 310 ≤ point then 1 / 0
  else Float.ofScientific n (e < 0) e.natAbs

/-- A number with decimal places or an exponent.  One that is too large is refused unless it is
    negative. -/
def decimal? (t : Text) : Option Float := do
  let (negative, t) := readSign t
  let whole := t.takeWhile fun c => c.isDigit || c == '_'
  let rest := t.drop whole.length
  let digits ← whole? whole
  let (places, rest) ← match rest with
    | '.' :: r =>
      let places := r.takeWhile fun c => c.isDigit || c == '_'
      (groupedDigits? Char.isDigit places).map (·, r.drop places.length)
    | _ => some ([], rest)
  let e ← match rest with
    | 'e' :: r => exponent? r
    | 'E' :: r => exponent? r
    | [] => if places.isEmpty then none else some 0
    | _ => none
  let x := scientific (Text.digitsValue (digits ++ places)) (e - places.length)
  if negative then return -x
  else if x.isInf then none
  else return x

/-- A number that is no number, or infinite. -/
def special? (t : Text) : Option Float := do
  let (negative, t) := readSign t
  if t = "inf".toList then return if negative then -1 / 0 else 1 / 0
  else if t = "nan".toList then return 0 / 0
  else none

/-- A value that is written as one word. -/
def scalar? (t : Text) : Option Toml :=
  if t = "true".toList then some (.bool true)
  else if t = "false".toList then some (.bool false)
  else
    match int? t with
    | some n => some (.int n)
    | none => ((decimal? t).or (special? t)).map .float

/-- Characters of a value that is written as one word. -/
def isScalarChar (c : Char) : Bool := c.isAlphanum || c == '_' || c == '-' || c == '+' || c == '.'

/-! ## Values -/

mutual

/-- A value that stands in `depth` others, and what follows it; `fuel` bounds the depth of the
    reading. -/
def readValue? : (fuel : Nat) → (depth : Nat) → Text → Option (Toml × Text)
  | 0, _, _ => none
  | fuel + 1, depth, t =>
    match t with
    | '"' :: _ => (readString? t).map fun (s, rest) => (.str s, rest)
    | '\'' :: _ => (readString? t).map fun (s, rest) => (.str s, rest)
    | '[' :: t =>
      if depth + 1 < nestingLimit then
        (readItems? fuel (depth + 1) t).map fun (items, rest) => (.arr items, rest)
      else none
    | '{' :: t =>
      if depth + 1 < nestingLimit then
        match skipPadding t with
        | '}' :: rest => some (.table .complete [], rest)
        | t =>
          (readPairs? fuel (depth + 1) [] t).map fun (fields, rest) => (.table .complete fields, rest)
      else none
    | _ =>
      match readDate? t with
      | some rest => some (.date (t.take (t.length - rest.length)), rest)
      | none =>
        let word := t.takeWhile isScalarChar
        (scalar? word).map (·, t.drop word.length)

/-- The items of an array through its closing bracket; a comma may follow the last. -/
def readItems? : (fuel : Nat) → (depth : Nat) → Text → Option (List Toml × Text)
  | 0, _, _ => none
  | fuel + 1, depth, t =>
    match skipBlank t with
    | ']' :: rest => some ([], rest)
    | t => do
      let (item, t) ← readValue? fuel depth t
      match skipBlank t with
      | ',' :: t =>
        let (items, rest) ← readItems? fuel depth t
        return (item :: items, rest)
      | ']' :: rest => return ([item], rest)
      | _ => none

/-- The assignments of a table between braces, of which there is at least one, through its closing
    brace, added to `fields`. -/
def readPairs? : (fuel : Nat) → (depth : Nat) → (fields : Fields) → Text → Option (Fields × Text)
  | 0, _, _, _ => none
  | fuel + 1, depth, fields, t => do
    let (path, key, t) ← readKey? t
    match t with
    | '=' :: t =>
      let (value, t) ← readValue? fuel depth (skipPadding t)
      let fields ← assign path key value fields
      match skipPadding t with
      | ',' :: t => readPairs? fuel depth fields t
      | '}' :: rest => return (fields, rest)
      | _ => none
    | _ => none

end

/-! ## Documents -/

/-- A header or an assignment, and the text after the end of its line. -/
def readLine? (t : Text) : Option (Line × Text) :=
  match t with
  | '[' :: '[' :: t => do
    let (path, key, t) ← readKey? t
    match t with
    | ']' :: ']' :: t => return (.arrayHeader (path ++ [key]), ← endLine? t)
    | _ => none
  | '[' :: t => do
    let (path, key, t) ← readKey? t
    match t with
    | ']' :: t => return (.header (path ++ [key]), ← endLine? t)
    | _ => none
  | _ => do
    let (path, key, t) ← readKey? t
    match t with
    | '=' :: t =>
      let t := skipPadding t
      let (value, t) ← readValue? (2 * t.length + 2) 0 t
      return (.assign path key value, ← endLine? t)
    | _ => none

/-- The lines of a document that matter; `fuel` bounds their number. -/
def readLines? : (fuel : Nat) → Text → Option (List Line)
  | 0, _ => none
  | fuel + 1, t =>
    let t := skipBlank t
    if t.isEmpty then some []
    else do
      let (line, t) ← readLine? t
      let lines ← readLines? fuel t
      return line :: lines

/-- The fields of a document. -/
def parse? (t : Text) : Option Fields :=
  match readLines? (t.length + 1) t with
  | some lines => Document.ofLines? lines
  | none => none

end Retouch.Toml
