/-
  Removal of a statement without effect: the addition of zero to `x`, written `x = x + 0;`.
-/
import Retouch.Pass.Basic

namespace Retouch.Pass

/-- The statement that is dropped. -/
def zeroAddition : Text := "x = x + 0;".toList

/-- Drops each addition of zero to `x`. -/
def dropZeroAdditions (t : Text) : Text := Text.replaceAll zeroAddition [] t

/-- Removal of additions of zero. -/
def peephole : Pass := ⟨"peephole", dropZeroAdditions⟩

end Retouch.Pass
