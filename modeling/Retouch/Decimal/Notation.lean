/-
  Numerals of binary floating-point numbers.

  A numeral is read as a fraction (`readNumeral?`) and rounded to the nearest number that a format
  holds (`Layout.round`).  A number is written with decimal places, with an exponent, in the shorter
  of these two ways, or in hexadecimal digits.
-/
import Retouch.Decimal.Fixed

namespace Retouch.Decimal

/-! ## Reading -/

/-- What a numeral stands for. -/
inductive Numeral where
  | nan (negative : Bool)
  | infinite (negative : Bool)
  /-- A fraction. -/
  | ratio (negative : Bool) (num den : Nat)
deriving Repr, DecidableEq

/-- The value of a hexadecimal digit. -/
def hexDigit? (c : Char) : Option Nat :=
  if c.isDigit then some (c.toNat - 48)
  else if 'a' ≤ c ∧ c ≤ 'f' then some (c.toNat - 87)
  else if 'A' ≤ c ∧ c ≤ 'F' then some (c.toNat - 55)
  else none

/-- Exponents beyond this make no difference. -/
def exponentLimit : Nat := 100000

/-- An exponent after one of some marks, and the length of its text; nothing if it has no digits. -/
def readExponent (marks : List Char) (t : Text) : Int × Nat :=
  match t with
  | c :: r =>
    if marks.contains c then
      let (negative, signs, r) : Bool × Nat × Text :=
        match r with
        | '-' :: s => (true, 1, s)
        | '+' :: s => (false, 1, s)
        | s => (false, 0, s)
      let digits := r.takeWhile Char.isDigit
      if digits.isEmpty then (0, 0)
      else
        let n : Int := min (Text.digitsValue digits) exponentLimit
        (if negative then -n else n, 1 + signs + digits.length)
    else (0, 0)
  | [] => (0, 0)

/-- The fraction `n · base ^ e`. -/
def scaled (negative : Bool) (n base : Nat) (e : Int) : Numeral :=
  if n = 0 then .ratio negative 0 1
  else if 20000 < (Text.ofNat n).length + e ∧ 0 < e then .infinite negative
  else if (Text.ofNat n).length + e < -20000 then .ratio negative 0 1
  else if 0 ≤ e then .ratio negative (n * Nat.pow base e.toNat) 1
  else .ratio negative n (Nat.pow base (-e).toNat)

/-- The digits before and after a point, and the length of their text. -/
def readDigits (isDigit : Char → Bool) (t : Text) : Text × Text × Nat :=
  let whole := t.takeWhile isDigit
  match t.drop whole.length with
  | '.' :: r =>
    let places := r.takeWhile isDigit
    if whole.isEmpty ∧ places.isEmpty then ([], [], 0)
    else (whole, places, whole.length + 1 + places.length)
  | _ => (whole, [], whole.length)

/-- The numeral without a sign at the start of a text, and its length. -/
def readUnsigned? (negative : Bool) (t : Text) : Option (Numeral × Nat) :=
  let lower := (t.take 8).map Char.toLower
  if "infinity".toList.isPrefixOf lower then some (.infinite negative, 8)
  else if "inf".toList.isPrefixOf lower then some (.infinite negative, 3)
  else if "nan".toList.isPrefixOf lower then some (.nan negative, 3)
  else
    let hex? : Option (Numeral × Nat) :=
      match t with
      | '0' :: x :: r =>
        if x = 'x' ∨ x = 'X' then
          let (whole, places, n) := readDigits (fun c => (hexDigit? c).isSome) r
          if n = 0 then none
          else
            let value := (whole ++ places).foldl (fun v c => 16 * v + (hexDigit? c).getD 0) 0
            let (e, m) := readExponent ['p', 'P'] (r.drop n)
            some (scaled negative value 2 (e - 4 * places.length), 2 + n + m)
        else none
      | _ => none
    match hex? with
    | some found => some found
    | none =>
      let (whole, places, n) := readDigits Char.isDigit t
      if n = 0 then none
      else
        let (e, m) := readExponent ['e', 'E'] (t.drop n)
        some (scaled negative (Text.digitsValue (whole ++ places)) 10 (e - places.length), n + m)

/-- The numeral at the start of a text, behind blanks and a sign, and the length of all of it. -/
def readNumeral? (t : Text) : Option (Numeral × Nat) :=
  let blanks := t.takeWhile fun c => c == ' ' || ('\t' ≤ c && c ≤ '\r')
  let r := t.drop blanks.length
  let (negative, signs, r) : Bool × Nat × Text :=
    match r with
    | '-' :: s => (true, 1, s)
    | '+' :: s => (false, 1, s)
    | s => (false, 0, s)
  (readUnsigned? negative r).map fun (n, length) => (n, blanks.length + signs + length)

/-! ## Rounding -/

/-- A binary format: the number of binary digits, and the least and the greatest exponent. -/
structure Layout where
  bits : Nat
  least : Int
  greatest : Int

/-- Numbers of 64 bits. -/
def Layout.double : Layout := ⟨53, -1074, 971⟩

/-- Numbers of 80 bits. -/
def Layout.extended : Layout := ⟨64, -16445, 16320⟩

/-- The number of a format nearest to a numeral, the even one of two. -/
def Layout.round (l : Layout) : Numeral → Exact
  | .nan _ => .nan
  | .infinite negative => .infinite negative
  | .ratio negative num den =>
    if num = 0 then .finite negative 0 l.least
    else
      let guess : Int := (Nat.log2 num : Int) - Nat.log2 den - l.bits + 1
      let at_ (q : Int) : Nat := roundDiv (num * Nat.pow 2 (-q).toNat) (den * Nat.pow 2 q.toNat)
      let low : Int := if num * Nat.pow 2 (-guess).toNat < den * Nat.pow 2 guess.toNat * Nat.pow 2 (l.bits - 1)
        then guess - 1 else guess
      let q := max low l.least
      let m := at_ q
      let (m, q) : Nat × Int := if Nat.pow 2 l.bits ≤ m then (m / 2, q + 1) else (m, q)
      if l.greatest < q then .infinite negative else .finite negative m q

/-- The floating-point number with an exact value. -/
def Exact.toFloat : Exact → Float
  | .nan => 0 / 0
  | .infinite negative => if negative then -1 / 0 else 1 / 0
  | .finite negative m q =>
    let x := (Float.ofNat m).scaleB q
    if negative then -x else x

/-! ## Writing -/

/-- The decimal exponent of a fraction that is not zero: it is at least `10 ^ e` and below
    `10 ^ (e + 1)`. -/
def decimalExponent (num den : Nat) : Int :=
  let digits (n : Nat) : Int := (Text.ofNat n).length
  let e := digits num - digits den
  let reaches (e : Int) : Bool := den * Nat.pow 10 e.toNat ≤ num * Nat.pow 10 (-e).toNat
  if reaches e then e else e - 1

/-- The digits of a fraction, `places + 1` of them, and the exponent of the first one. -/
def scientificDigits (places : Nat) (num den : Nat) : Nat × Int :=
  if num = 0 then (0, 0)
  else
    let e := decimalExponent num den
    let shift : Int := places - e
    let n := roundDiv (num * Nat.pow 10 shift.toNat) (den * Nat.pow 10 (-shift).toNat)
    if Nat.pow 10 (places + 1) ≤ n then (n / 10, e + 1) else (n, e)

/-- An exponent with its sign and at least two digits. -/
def signedExponent (e : Int) : Text :=
  'e' :: (if e < 0 then '-' else '+') :: zeroPadded 2 e.natAbs

/-- The digits of a number without its point when there are no places, unless it is kept. -/
def pointed (keep : Bool) (t : Text) : Text := if keep && !t.contains '.' then t ++ ['.'] else t

/-- A fraction with an exponent. -/
def scientificText (places : Nat) (keep : Bool) (num den : Nat) : Text :=
  let (n, e) := scientificDigits places num den
  pointed keep (placesText places n) ++ signedExponent e

/-- A fraction with decimal places. -/
def fixedText (places : Nat) (keep : Bool) (num den : Nat) : Text :=
  pointed keep (placesText places (roundDiv (num * Nat.pow 10 places) den))

/-- A text of digits without the zeros at the end of its places. -/
def trimPlaces (t : Text) : Text :=
  if t.contains '.' then Text.dropEndWhile (· == '.') (Text.dropEndWhile (· == '0') t) else t

/-- A fraction with `precision` digits, in the shorter of the two ways; zeros at the end are kept on
    demand. -/
def generalText (precision : Nat) (keep : Bool) (num den : Nat) : Text :=
  let p := max precision 1
  let (n, e) := scientificDigits (p - 1) num den
  if e < -4 ∨ (p : Int) ≤ e then
    let digits := pointed keep (placesText (p - 1) n)
    (if keep then digits else trimPlaces digits) ++ signedExponent e
  else
    let t := fixedText ((p : Int) - 1 - e).toNat keep num den
    if keep then t else trimPlaces t

/-- Hexadecimal digits of a number with `width` of them. -/
def hexText (width n : Nat) : Text :=
  let digits := Nat.toDigits 16 n
  List.replicate (width - digits.length) '0' ++ digits

/-- `m · 2 ^ q` in hexadecimal digits: one before the point, made of `lead` binary digits, and a power
    of two. -/
def hexadecimalText (lead : Nat) (precision : Option Nat) (keep : Bool) (m : Nat) (q : Int) : Text :=
  if m = 0 then
    pointed keep (match precision with
      | some (n + 1) => "0x0.".toList ++ List.replicate (n + 1) '0'
      | _ => "0x0".toList) ++ "p+0".toList
  else
    let width := Nat.log2 m + 1
    let spare := (4 - (width - lead) % 4) % 4
    let m := m * Nat.pow 2 spare
    let q := q - spare
    let digits := (width + spare - lead) / 4
    let (m, shown) : Nat × Nat :=
      match precision with
      | some n =>
        if n < digits then
          (roundDiv m (Nat.pow 2 (4 * (digits - n))), n)
        else (m * Nat.pow 2 (4 * (n - digits)), n)
      | none => (m, digits)
    let e := q + 4 * digits
    let places := hexText shown (m % Nat.pow 16 shown)
    let places := if precision.isSome then places else Text.dropEndWhile (· == '0') places
    "0x".toList ++ Nat.toDigits 16 (m / Nat.pow 16 shown) ++
      (if places.isEmpty then (if keep then ['.'] else []) else '.' :: places) ++
      'p' :: (if e < 0 then '-' else '+') :: Text.ofNat e.natAbs

end Retouch.Decimal
