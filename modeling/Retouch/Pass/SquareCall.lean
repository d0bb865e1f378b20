/-
  Expansion of the squaring helper: its definition is dropped, and a call on a literal, `square(4)`,
  becomes the product `4 * 4`.  Calls on anything else stay.
-/
import Retouch.Pass.Basic

namespace Retouch.Pass

/-- The definition of the helper, up to its first closing brace. -/
def squareDefinition : Pattern :=
  [.lit "inline", .blanks1, .lit "int", .blanks1, .lit "square", .blanks, .lit "(int", .blanks1,
    .run 1 Text.isWord, .lit ")", .blanks, .lit "\x7b", .run 0 (· != '}'), .lit "\x7d"]

/-- A call of the helper on a literal. -/
def squareCall : Pattern :=
  [.lit "square", .blanks, .lit "(", .blanks, .digits, .blanks, .lit ")"]

/-- The product that stands for a call. -/
def squareProduct (m : Match) : Text := m.piece 4 ++ " * ".toList ++ m.piece 4

/-- Drops the definitions of the helper. -/
def dropSquareDefinitions (t : Text) : Text :=
  Matcher.replaceAll squareDefinition.read? (fun _ => []) t

/-- Drops the definitions of the helper, then expands its calls on literals. -/
def expandSquares (t : Text) : Text :=
  Matcher.replaceAll squareCall.read? squareProduct (dropSquareDefinitions t)

/-- Expansion of the squaring helper. -/
def inlineExpansion : Pass := ⟨"inline-expansion", expandSquares⟩

end Retouch.Pass
