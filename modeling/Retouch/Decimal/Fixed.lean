/-
  Numbers with a fixed number of decimal places, rounded to the nearest one; a half goes to the even
  neighbour.
-/
import Retouch.Decimal.Binary
import Retouch.Text.Basic

namespace Retouch.Decimal

/-- The natural number nearest to `num / den`, the even one of two. -/
def roundDiv (num den : Nat) : Nat :=
  let q := num / den
  let r := num % den
  if den < 2 * r ∨ (2 * r = den ∧ q % 2 = 1) then q + 1 else q

/-- The digits of `n` with at least `width` of them. -/
def zeroPadded (width n : Nat) : Text :=
  let digits := Text.ofNat n
  List.replicate (width - digits.length) '0' ++ digits

/-- `n` units of the last of `places` decimal places. -/
def placesText (places n : Nat) : Text :=
  if places = 0 then Text.ofNat n
  else Text.ofNat (n / Nat.pow 10 places) ++ ['.'] ++ zeroPadded places (n % Nat.pow 10 places)

/-- A sign in front of a number. -/
def signed (negative : Bool) (t : Text) : Text := if negative then '-' :: t else t

/-- A floating-point number with `places` decimal places. -/
def fixed (places : Nat) (x : Float) : Text :=
  match Exact.ofFloat x with
  | .nan => "NaN".toList
  | .infinite negative => signed negative "inf".toList
  | .finite negative m q =>
    let (num, den) := fractionOf m q
    signed negative (placesText places (roundDiv (num * Nat.pow 10 places) den))

end Retouch.Decimal
