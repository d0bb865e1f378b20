/-
  Columns of tables: texts brought to a width by blanks on one side.  A text that is too wide stays
  as it is.
-/
import Retouch.Text.Basic

namespace Retouch.Text

/-- The text at the left of a column of the given width. -/
def padRight (width : Nat) (t : Text) : Text := t ++ List.replicate (width - t.length) ' '

/-- The text at the right of a column of the given width. -/
def padLeft (width : Nat) (t : Text) : Text := List.replicate (width - t.length) ' ' ++ t

/-- A line of dashes. -/
def rule (width : Nat) : Text := List.replicate width '-' ++ ['\n']

end Retouch.Text
