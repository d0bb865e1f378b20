/-
  Counting loops: a `while` loop on a condition without parentheses whose body starts by a step of a
  name, as in `while (i < n) { i++; … }`, becomes `for (; i < n; i++) { … }`.
-/
import Retouch.Pass.Basic

namespace Retouch.Pass

/-- Characters of a loop condition: no parentheses and no newline. -/
def isConditionChar (c : Char) : Bool := c != '(' && c != ')' && c != '\n'

/-- A loop head and the step that opens its body. -/
def countingLoopPattern : Pattern :=
  [.edge, .lit "while", .blanks, .lit "(", .run 0 isConditionChar, .lit ")", .blanks, .lit "\x7b",
    .blanks, .name, .lit "++;"]

/-- The loop head with the step moved into it. -/
def countingLoopHead (m : Match) : Text :=
  "for (; ".toList ++ m.piece 4 ++ "; ".toList ++ m.piece 9 ++ "++) \x7b".toList

/-- Moves the steps of counting loops into their heads. -/
def moveSteps (t : Text) : Text := Matcher.replaceAll countingLoopPattern.read? countingLoopHead t

/-- Counting loops in `for` form. -/
def whileToFor : Pass := ⟨"while-to-for", moveSteps⟩

end Retouch.Pass
