/-
  Sets of characters given as ranges of code points.  A table is an array of increasing, disjoint
  ranges; membership is found by halving (`Ranges.contains`).
-/

namespace Retouch.Text

/-- Increasing, disjoint ranges `(first, last)` of code points. -/
abbrev Ranges := Array (Nat × Nat)

/-- Whether a range of `rs` with index in `lo ≤ i < hi` holds `n`.  Each step halves `hi - lo`, so
    `steps` need not exceed the number of binary digits of the size. -/
def Ranges.search (rs : Ranges) (n : Nat) : (steps lo hi : Nat) → Bool
  | 0, _, _ => false
  | steps + 1, lo, hi =>
    if lo < hi then
      let mid := (lo + hi) / 2
      match rs[mid]? with
      | none => false
      | some (first, last) =>
        if n < first then search rs n steps lo mid
        else if last < n then search rs n steps (mid + 1) hi
        else true
    else false

/-- Whether the code point `n` lies in one of the ranges. -/
def Ranges.contains (rs : Ranges) (n : Nat) : Bool :=
  rs.search n (rs.size.log2 + 1) 0 rs.size

end Retouch.Text
