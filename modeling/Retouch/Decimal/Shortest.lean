/-
  The shortest decimal that reads back as a given floating-point number.

  The numbers that round to `m · 2 ^ q` form an interval around it, with its ends if `m` is even.
  Among the decimals in this interval those with the fewest digits are shortest; of two on the same
  grid the nearer one is taken.  `Style` says how the digits are written out.
-/
import Retouch.Decimal.Fixed

namespace Retouch.Decimal

/-! ## Digits -/

/-- The decimal exponent `e` with `10 ^ e ≤ num / den < 10 ^ (e + 1)`, for `0 < num < den`; it is
    `-steps` at the least. -/
def exponentBelowOne (num den : Nat) : (steps tried : Nat) → Int
  | 0, tried => -tried
  | steps + 1, tried =>
    if den ≤ num * Nat.pow 10 tried then -tried else exponentBelowOne num den steps (tried + 1)

/-- The decimal exponent `e` with `10 ^ e ≤ num / den < 10 ^ (e + 1)`. -/
def leadingExponent (num den : Nat) : Int :=
  if den ≤ num then ((Text.ofNat (num / den)).length : Int) - 1
  else exponentBelowOne num den 400 1

/-- `n · 10 ^ e` as a fraction of natural numbers. -/
def decimalFraction (n : Nat) (e : Int) : Nat × Nat := (n * Nat.pow 10 e.toNat, Nat.pow 10 (-e).toNat)

/-- The distance of two natural numbers. -/
def distance (a b : Nat) : Nat := (a - b) + (b - a)

/-- An interval `low / den` to `high / den` around `value / den`. -/
structure Interval where
  low : Nat
  value : Nat
  high : Nat
  den : Nat
  closed : Bool

namespace Interval

/-- The numbers that round to `m · 2 ^ q`. -/
def around (m : Nat) (q : Int) : Interval :=
  let (unit, den) := fractionOf 1 (q - 2)
  let below := if m = Nat.pow 2 fractionBits ∧ leastExponent < q then 1 else 2
  ⟨(4 * m - below) * unit, 4 * m * unit, (4 * m + 2) * unit, den, m % 2 == 0⟩

/-- Whether `num / den` lies in the interval. -/
def holds (i : Interval) (num den : Nat) : Bool :=
  if i.closed then i.low * den ≤ num * i.den && num * i.den ≤ i.high * den
  else i.low * den < num * i.den && num * i.den < i.high * den

/-- The multiple of `10 ^ e` in the interval that is nearest to its value, if there is one. -/
def onGrid? (i : Interval) (e : Int) : Option Nat :=
  let (unit, den) := decimalFraction 1 e
  let below := i.value * den / (i.den * unit)
  let near (n : Nat) : Nat := distance (n * unit * i.den) (i.value * den)
  match i.holds (below * unit) den, i.holds ((below + 1) * unit) den with
  | true, true => some (if near (below + 1) < near below then below + 1 else below)
  | true, false => some below
  | false, true => some (below + 1)
  | false, false => none

/-- The decimal `n · 10 ^ e` of the interval with the fewest digits, of which there are at most
    `more` more than `count`. -/
def fewestDigits (i : Interval) (lead : Int) : (more count : Nat) → Nat × Int
  | 0, count => ((i.onGrid? (lead - count)).getD 0, lead - count)
  | more + 1, count =>
    match i.onGrid? (lead - count) with
    | some n => (n, lead - count)
    | none => fewestDigits i lead more (count + 1)

end Interval

/-- A number without the zeros at its end, and how many they were; `steps` bounds them. -/
def dropZeros : (steps : Nat) → (n : Nat) → (dropped : Nat) → Nat × Nat
  | 0, n, dropped => (n, dropped)
  | steps + 1, n, dropped =>
    if n ≠ 0 ∧ n % 10 = 0 then dropZeros steps (n / 10) (dropped + 1) else (n, dropped)

/-- The shortest decimal `n · 10 ^ e` that rounds to `m · 2 ^ q`. -/
def shortest (m : Nat) (q : Int) : Nat × Int :=
  if m = 0 then (0, 0)
  else
    let i := Interval.around m q
    let (n, e) := i.fewestDigits (leadingExponent i.value i.den) 17 0
    let (n, zeros) := dropZeros 20 n 0
    (n, e + zeros)

/-! ## Writing -/

/-- How digits are written out. -/
structure Style where
  /-- Whether a whole number keeps a point and a zero. -/
  wholePoint : Bool
  /-- Whether the number is written without an exponent if its point stands behind this many digits
      (before the first one if negative). -/
  positional : Int → Bool

/-- The digits `n` with the point moved by `e` places, without an exponent. -/
def positionalText (wholePoint : Bool) (n : Nat) (e : Int) : Text :=
  let digits := Text.ofNat n
  let point := (digits.length : Int) + e
  if 0 ≤ e then
    digits ++ List.replicate e.toNat '0' ++ if wholePoint then ['.', '0'] else []
  else if 0 < point then digits.take point.toNat ++ ['.'] ++ digits.drop point.toNat
  else "0.".toList ++ List.replicate (-point).toNat '0' ++ digits

/-- The digits `n` with the point behind the first, and an exponent. -/
def exponentText (n : Nat) (e : Int) : Text :=
  let digits := Text.ofNat n
  let mantissa := if digits.length ≤ 1 then digits else digits.take 1 ++ ['.'] ++ digits.drop 1
  mantissa ++ ['e'] ++ (toString ((digits.length : Int) + e - 1)).toList

/-- A floating-point number in the fewest digits. -/
def Style.write (s : Style) (x : Float) : Text :=
  match Exact.ofFloat x with
  | .nan => "NaN".toList
  | .infinite negative => signed negative "inf".toList
  | .finite negative m q =>
    let (n, e) := shortest m q
    signed negative <|
      if s.positional ((Text.ofNat n).length + e) then positionalText s.wholePoint n e
      else exponentText n e

/-- Never an exponent, and no point in a whole number. -/
def Style.plain : Style := ⟨false, fun _ => true⟩

/-- Whole numbers keep a point; very large and very small numbers have an exponent. -/
def Style.json : Style := ⟨true, fun point => -5 < point && point ≤ 16⟩

end Retouch.Decimal
