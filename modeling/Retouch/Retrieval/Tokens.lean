/-
  Tokens: the words of two or more characters in a text, in lower case.
-/
import Retouch.Pattern.Scan
import Retouch.Text.Case

namespace Retouch

/-- A whole word of two or more characters. -/
def tokenPattern : Pattern := [.edge, .run 2 Text.isWord, .edge]

/-- The words of two or more characters in a text, in order. -/
def words (t : Text) : List Text := (Matcher.findAll tokenPattern.read? t).map Match.text

/-- The tokens of a text, in order. -/
def tokens (t : Text) : List Text := (words t).map Text.lower

end Retouch
