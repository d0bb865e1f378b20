/-
  Removal of comments: first every `//` with the rest of its line, then every `/*` through the next
  `*/`, then the spaces and tabs at the ends of lines.  The three steps are separate scans, so a
  marker inside a comment of the other kind counts.
-/
import Retouch.Pass.Basic

namespace Retouch.Pass

/-- A comment to the end of its line. -/
def lineComment : Pattern := [.lit "//", .run 0 (· != '\n')]

/-- A comment between its markers. -/
def blockComment : Pattern := [.lit "/*", .through "*/".toList]

/-- Spaces and tabs at the end of a line. -/
def trailingPadding : Pattern := [.run 1 Text.isPadding, .lineEnd]

/-- Drops the line comments. -/
def dropLineComments (t : Text) : Text := Matcher.replaceAll lineComment.read? (fun _ => []) t

/-- Drops the block comments. -/
def dropBlockComments (t : Text) : Text := Matcher.replaceAll blockComment.read? (fun _ => []) t

/-- Drops the padding at the ends of lines. -/
def dropTrailingPadding (t : Text) : Text :=
  Matcher.replaceAll trailingPadding.read? (fun _ => []) t

/-- Drops comments and what padding they leave behind. -/
def dropComments (t : Text) : Text :=
  dropTrailingPadding (dropBlockComments (dropLineComments t))

/-- Removal of comments. -/
def stripComments : Pass := ⟨"strip-comments", dropComments⟩

end Retouch.Pass
