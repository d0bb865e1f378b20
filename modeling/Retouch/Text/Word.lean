/-
  Word characters and decimal digits, of which identifiers, tokens and numbers are made.

  A word character is a letter or another alphabetic character, a mark, a decimal digit, a
  connector such as the underscore, or a joiner.  ASCII is decided directly, the rest by table.
-/
import Retouch.Text.Basic
import Retouch.Text.WordTable

namespace Retouch.Text

/-- Word characters. -/
def isWord (c : Char) : Bool :=
  if c.toNat < 0x80 then c.isAlphanum || c == '_' else wordRanges.contains c.toNat

/-- Decimal digits of any script. -/
def isDecimal (c : Char) : Bool :=
  if c.toNat < 0x80 then c.isDigit else digitRanges.contains c.toNat

end Retouch.Text
