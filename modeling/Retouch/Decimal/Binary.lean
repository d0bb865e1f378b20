/-
  Binary floating-point numbers as exact numbers: a finite one is `± m · 2 ^ q`.
-/

namespace Retouch.Decimal

/-- The exact value of a floating-point number. -/
inductive Exact where
  | nan
  | infinite (negative : Bool)
  | finite (negative : Bool) (m : Nat) (q : Int)
deriving Repr, DecidableEq

/-- The least exponent of a finite number. -/
def leastExponent : Int := -1074

/-- The number of stored binary places. -/
def fractionBits : Nat := 52

/-- The exact value of `x`. -/
def Exact.ofFloat (x : Float) : Exact :=
  let bits := x.toBits.toNat
  let negative := bits / Nat.pow 2 63 % 2 == 1
  let exponent : Nat := bits / Nat.pow 2 fractionBits % Nat.pow 2 11
  let fraction := bits % Nat.pow 2 fractionBits
  if exponent = Nat.pow 2 11 - 1 then if fraction = 0 then .infinite negative else .nan
  else if exponent = 0 then .finite negative fraction leastExponent
  else .finite negative (Nat.pow 2 fractionBits + fraction) (leastExponent + (exponent : Int) - 1)

/-- `m · 2 ^ q` as a fraction of natural numbers. -/
def fractionOf (m : Nat) (q : Int) : Nat × Nat := (m * Nat.pow 2 q.toNat, Nat.pow 2 (-q).toNat)

end Retouch.Decimal
