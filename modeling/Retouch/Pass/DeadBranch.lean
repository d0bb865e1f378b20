/-
  Removal of branches that are never taken: `if (false) { … }` with all up to the first closing
  brace.  A block with a block inside loses only its front.
-/
import Retouch.Pass.Basic

namespace Retouch.Pass

/-- A branch on `false`, up to the first closing brace. -/
def deadBranchPattern : Pattern :=
  [.lit "if", .blanks, .lit "(false)", .blanks, .lit "\x7b", .through ['}']]

/-- Drops the branches on `false`. -/
def dropDeadBranches (t : Text) : Text :=
  Matcher.replaceAll deadBranchPattern.read? (fun _ => []) t

/-- Removal of branches on `false`. -/
def deadCodeElimination : Pass := ⟨"dead-code-elimination", dropDeadBranches⟩

end Retouch.Pass
