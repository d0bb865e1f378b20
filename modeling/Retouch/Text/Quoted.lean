/-
  Quoted texts: a text between double quotes in which a quote, a backslash, the common control
  characters and every character that does not show are written by an escape.
-/
import Retouch.Text.Basic
import Retouch.Text.HiddenTable

namespace Retouch.Text

/-- Characters that do not show by themselves. -/
def isHidden (c : Char) : Bool :=
  if c.toNat < 0x80 then c.toNat < 0x20 || c.toNat == 0x7F else hiddenRanges.contains c.toNat

/-- A character as it stands in a quoted text. -/
def quoteChar (c : Char) : Text :=
  if c = '"' then ['\\', '"']
  else if c = '\\' then ['\\', '\\']
  else if c = '\n' then ['\\', 'n']
  else if c = '\r' then ['\\', 'r']
  else if c = '\t' then ['\\', 't']
  else if c.toNat = 0 then ['\\', '0']
  else if isHidden c then
    "\\u\x7b".toList ++ Nat.toDigits 16 c.toNat ++ ['}']
  else [c]

/-- The quoted form of a text. -/
def quoted (t : Text) : Text := ['"'] ++ t.flatMap quoteChar ++ ['"']

end Retouch.Text
