/-
  Folding of sums of two literals: `2 + 3` becomes `5`.

  One scan folds the pairs of a chain `a + b + c + d` that it meets, `a + b` and `c + d`.  Numbers
  are unsigned words of 128 bits: a sum stays as it stands when an operand or the result does not
  fit.
-/
import Retouch.Pass.Basic

namespace Retouch.Pass

/-- The numbers that can be folded are below this bound. -/
def sumBound : Nat := Nat.pow 2 128

/-- Two literals with a plus sign between them. -/
def sumPattern : Pattern := [.digits, .blanks, .lit "+", .blanks, .digits]

/-- The sum of two literals, if operands and sum fit. -/
def sum? (a b : Text) : Option Nat := do
  let x ← Text.natBelow? sumBound a
  let y ← Text.natBelow? sumBound b
  if x + y < sumBound then some (x + y) else none

/-- What a sum is replaced by: its value, or itself if it overflows. -/
def foldSum (m : Match) : Text :=
  match sum? (m.piece 0) (m.piece 4) with
  | some n => Text.ofNat n
  | none => m.text

/-- Folds the sums of two literals that one scan meets. -/
def foldSums (t : Text) : Text := Matcher.replaceAll sumPattern.read? foldSum t

/-- Folding of literal sums. -/
def constantFolding : Pass := ⟨"constant-folding", foldSums⟩

end Retouch.Pass
