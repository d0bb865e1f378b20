/-
  Passes: named functions on program texts.  A pass looks only at the characters of the text and
  never fails; where its pattern does not occur it gives the text back as it is.
-/
import Retouch.Pattern.Scan

namespace Retouch

/-- A named function on program texts. -/
structure Pass where
  name : String
  apply : Text → Text

namespace Piece

/-- Any amount of white space. -/
def blanks : Piece := .run 0 Text.isBlank

/-- At least one character of white space. -/
def blanks1 : Piece := .run 1 Text.isBlank

/-- At least one ASCII digit. -/
def digits : Piece := .run 1 Char.isDigit

/-- The characters of a string. -/
def lit (s : String) : Piece := .word s.toList

end Piece

end Retouch
