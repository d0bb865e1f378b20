/-
  Increments: `i = i + 1;` becomes `i++;` and `i = i - 1;` becomes `i--;`.  An assignment between two
  different names is a match too and stays as it is.
-/
import Retouch.Pass.Basic

namespace Retouch.Pass

/-- A name assigned a name plus or minus one. -/
def stepPattern : Pattern :=
  [.edge, .name, .blanks, .lit "=", .blanks, .name, .blanks, .oneOf [['+'], ['-']], .blanks,
    .lit "1", .blanks, .lit ";"]

/-- The short form of a step, if it steps the name that it assigns. -/
def shortenStep (m : Match) : Text :=
  if m.piece 1 = m.piece 5 then m.piece 1 ++ m.piece 7 ++ m.piece 7 ++ [';'] else m.text

/-- Shortens the steps of a text. -/
def shortenSteps (t : Text) : Text := Matcher.replaceAll stepPattern.read? shortenStep t

/-- Increments in short form. -/
def incrementIdioms : Pass := ⟨"increment-idioms", shortenSteps⟩

end Retouch.Pass
