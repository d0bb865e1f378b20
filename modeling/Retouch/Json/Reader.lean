/-
  Reading of JSON texts.

  `parse?` reads a whole text as one value, with blanks around it.  A string may hold an escape for
  half of a surrogate pair; it then denotes no text, but it is still a string.  Numbers have no limit.
-/
import Retouch.Json.Basic

namespace Retouch.Json

/-- The blanks between the parts of a JSON text. -/
def isSpace (c : Char) : Bool := c == ' ' || c == '\t' || c == '\n' || c == '\r'

/-- The text without the blanks at its start. -/
def skipSpace (t : Text) : Text := t.dropWhile isSpace

/-! ## Strings -/

/-- The value of a hexadecimal digit. -/
def hexValue? (c : Char) : Option Nat :=
  if c.isDigit then some (c.toNat - '0'.toNat)
  else if 'a' ≤ c ∧ c ≤ 'f' then some (c.toNat - 'a'.toNat + 10)
  else if 'A' ≤ c ∧ c ≤ 'F' then some (c.toNat - 'A'.toNat + 10)
  else none

/-- The value of a sequence of hexadecimal digits. -/
def hexNumber? (t : Text) : Option Nat :=
  t.foldlM (fun n c => (hexValue? c).map (16 * n + ·)) 0

/-- The character that an escape of one letter stands for. -/
def escaped? (c : Char) : Option Nat :=
  match c with
  | '"' => some 0x22
  | '\\' => some 0x5C
  | '/' => some 0x2F
  | 'b' => some 0x08
  | 'f' => some 0x0C
  | 'n' => some 0x0A
  | 'r' => some 0x0D
  | 't' => some 0x09
  | _ => none

/-- The units of a string whose opening quote has been read, and the text after it.  A unit is a code
    point, or half of a surrogate pair. -/
def stringUnits? : Text → Option (List Nat × Text)
  | [] => none
  | '"' :: t => some ([], t)
  | '\\' :: 'u' :: a :: b :: c :: d :: t => do
    let unit ← hexNumber? [a, b, c, d]
    let (units, rest) ← stringUnits? t
    return (unit :: units, rest)
  | '\\' :: c :: t => do
    let unit ← escaped? c
    let (units, rest) ← stringUnits? t
    return (unit :: units, rest)
  | c :: t =>
    if c.toNat < 0x20 then none
    else do
      let (units, rest) ← stringUnits? t
      return (c.toNat :: units, rest)

/-- The first half of a surrogate pair. -/
def isHighSurrogate (n : Nat) : Bool := 0xD800 ≤ n && n < 0xDC00

/-- The second half of a surrogate pair. -/
def isLowSurrogate (n : Nat) : Bool := 0xDC00 ≤ n && n < 0xE000

/-- The text of a sequence of units, if every half of a surrogate pair has its other half. -/
def unitsText? : List Nat → Option Text
  | [] => some []
  | n :: units =>
    if isHighSurrogate n then
      match units with
      | m :: units' =>
        if isLowSurrogate m then
          (unitsText? units').map
            (Char.ofNat (0x10000 + (n - 0xD800) * 0x400 + (m - 0xDC00)) :: ·)
        else none
      | [] => none
    else if isLowSurrogate n then none
    else (unitsText? units).map (Char.ofNat n :: ·)

/-- The text of a string whose opening quote has been read, and what follows it. -/
def readString? (t : Text) : Option (Option Text × Text) :=
  (stringUnits? t).map fun (units, rest) => (unitsText? units, rest)

/-! ## Numbers -/

/-- A non-empty sequence of digits and what follows it. -/
def readDigits? (t : Text) : Option (Text × Text) :=
  if (t.takeWhile Char.isDigit).isEmpty then none
  else some (t.takeWhile Char.isDigit, t.dropWhile Char.isDigit)

/-- A whole number, which has no zero in front of another digit. -/
def readWhole? (t : Text) : Option (Text × Text) := do
  let (digits, rest) ← readDigits? t
  if digits.head? = some '0' ∧ 1 < digits.length then none else some (digits, rest)

/-- The decimal places of a number, if there are any. -/
def readPlaces? (t : Text) : Option (Text × Text) :=
  match t with
  | '.' :: r => (readDigits? r).map fun (digits, rest) => ('.' :: digits, rest)
  | _ => some ([], t)

/-- The sign of an exponent, if there is one. -/
def readSign (t : Text) : Text × Text :=
  match t with
  | '+' :: r => (['+'], r)
  | '-' :: r => (['-'], r)
  | _ => ([], t)

/-- The exponent of a number, if there is one. -/
def readExponent? (t : Text) : Option (Text × Text) :=
  match t with
  | c :: r =>
    if c = 'e' ∨ c = 'E' then
      let (sign, r) := readSign r
      (readDigits? r).map fun (digits, rest) => (c :: sign ++ digits, rest)
    else some ([], t)
  | [] => some ([], [])

/-- A number and what follows it. -/
def readNumber? (t : Text) : Option (Text × Text) := do
  let (sign, t) := match t with
    | '-' :: r => (['-'], r)
    | _ => ([], t)
  let (whole, t) ← readWhole? t
  let (places, t) ← readPlaces? t
  let (exponent, t) ← readExponent? t
  return (sign ++ whole ++ places ++ exponent, t)

/-! ## Values -/

mutual

/-- A value and what follows it; `fuel` bounds the depth of the reading. -/
def readValue? : (fuel : Nat) → Text → Option (Json × Text)
  | 0, _ => none
  | fuel + 1, t =>
    match skipSpace t with
    | [] => none
    | '"' :: t => (readString? t).map fun (s, rest) => (.str s, rest)
    | '[' :: t =>
      match skipSpace t with
      | ']' :: rest => some (.arr [], rest)
      | t => (readItems? fuel t).map fun (items, rest) => (.arr items, rest)
    | '{' :: t =>
      match skipSpace t with
      | '}' :: rest => some (.obj [], rest)
      | t => (readFields? fuel t).map fun (fields, rest) => (.obj fields, rest)
    | 'n' :: 'u' :: 'l' :: 'l' :: rest => some (.null, rest)
    | 't' :: 'r' :: 'u' :: 'e' :: rest => some (.bool true, rest)
    | 'f' :: 'a' :: 'l' :: 's' :: 'e' :: rest => some (.bool false, rest)
    | t => (readNumber? t).map fun (n, rest) => (.num n, rest)

/-- The items of an array, of which there is at least one, through its closing bracket. -/
def readItems? : (fuel : Nat) → Text → Option (List Json × Text)
  | 0, _ => none
  | fuel + 1, t => do
    let (item, t) ← readValue? fuel t
    match skipSpace t with
    | ',' :: t =>
      let (items, rest) ← readItems? fuel t
      return (item :: items, rest)
    | ']' :: rest => return ([item], rest)
    | _ => none

/-- The fields of an object, of which there is at least one, through its closing brace. -/
def readFields? : (fuel : Nat) → Text → Option (List (Option Text × Json) × Text)
  | 0, _ => none
  | fuel + 1, t =>
    match skipSpace t with
    | '"' :: t => do
      let (key, t) ← readString? t
      match skipSpace t with
      | ':' :: t =>
        let (value, t) ← readValue? fuel t
        match skipSpace t with
        | ',' :: t =>
          let (fields, rest) ← readFields? fuel t
          return ((key, value) :: fields, rest)
        | '}' :: rest => return ([(key, value)], rest)
        | _ => none
      | _ => none
    | _ => none

end

/-- The value that a whole text denotes. -/
def parse? (t : Text) : Option Json :=
  match readValue? (2 * t.length + 2) t with
  | some (j, rest) => if (skipSpace rest).isEmpty then some j else none
  | none => none

end Retouch.Json
