/-
  Removal of blank lines: a newline and the lines after it that hold only spaces and tabs become one
  newline.
-/
import Retouch.Pass.Basic

namespace Retouch.Pass

/-- A newline followed by at least one blank line. -/
def blankLinesPattern : Pattern :=
  [.lit "\n", .runTo (fun c => Text.isPadding c || c == '\n') '\n']

/-- Drops the blank lines after each line. -/
def dropBlankLines (t : Text) : Text :=
  Matcher.replaceAll blankLinesPattern.read? (fun _ => ['\n']) t

/-- Removal of blank lines. -/
def collapseBlankLines : Pass := ⟨"collapse-blank-lines", dropBlankLines⟩

end Retouch.Pass
