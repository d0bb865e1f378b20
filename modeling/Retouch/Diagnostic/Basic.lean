/-
  Diagnostics: messages of a compiler about a place in a source text, and how they are read off its
  error output.

  A diagnostic line names a file, a line, perhaps a column, and says `error`, `fatal error`,
  `warning` or `note`.  Notes belong to the diagnostic before them; lines of any other shape are
  passed over.  The span of a diagnostic runs from its column to the end of its line.
-/
import Retouch.Pass.Basic

namespace Retouch

/-- A range of bytes in a source text. -/
structure Span where
  start : Nat
  stop : Nat
deriving Repr, DecidableEq

/-- How serious a diagnostic is. -/
inductive Severity where
  | error
  | warning
deriving Repr, DecidableEq

/-- A message about a place in a source text.  `line` is the number of the line, from one. -/
structure Diagnostic where
  severity : Severity
  message : Text
  span : Span
  line : Nat
  notes : List Text
deriving Repr, DecidableEq

namespace Diagnostic

/-! ## Lines of compiler output -/

/-- What a line of compiler output says. -/
inductive Kind where
  | error
  | warning
  | note
deriving Repr, DecidableEq

/-- A line of compiler output about a place.  The column is missing if the line has none. -/
structure Remark where
  kind : Kind
  line : Nat
  column : Option Nat
  message : Text
deriving Repr, DecidableEq

/-- Line and column numbers are below this bound. -/
def numberBound : Nat := Nat.pow 2 64

/-- A file name and a line number, each followed by a colon. -/
def placePattern : Pattern :=
  [.run 1 (fun c => c != ':' && c != '\n'), .lit ":", .run 1 Text.isDecimal, .lit ":"]

/-- A column number and a colon. -/
def columnPattern : Pattern := [.run 1 Text.isDecimal, .lit ":"]

/-- The kind of a message and a colon. -/
def kindPattern : Pattern :=
  [.blanks, .oneOf ["fatal error".toList, "error".toList, "warning".toList, "note".toList],
    .lit ":"]

/-- The kind that a word stands for. -/
def kindOf (w : Text) : Kind :=
  if w = "warning".toList then .warning else if w = "note".toList then .note else .error

/-- A number in a line; one that does not fit or is not in ASCII digits reads as one. -/
def numberOf (t : Text) : Nat := (Text.natBelow? numberBound t).getD 1

/-- Reads a line of compiler output, given without its terminator. -/
def remark? (line : Text) : Option Remark := do
  let place ← placePattern.read? none line
  let (column, rest) := match columnPattern.read? none place.rest with
    | some c => (some (numberOf (c.piece 0)), c.rest)
    | none => (none, place.rest)
  let kind ← kindPattern.read? none rest
  return ⟨kindOf (kind.piece 1), numberOf (place.piece 2), column, Text.trim kind.rest⟩

/-! ## Spans -/

/-- The body of a line: the line without the carriage returns and newlines at its end. -/
def lineBody (line : Text) : Text := Text.dropEndWhile (fun c => c == '\n' || c == '\r') line

/-- Positions in spans are words of 32 bits. -/
def spanOf (start stop : Nat) : Span := ⟨start % Nat.pow 2 32, stop % Nat.pow 2 32⟩

/-- The span from a column to the end of a line, both counted from one; `lines` are the lines from
    the byte `offset` on. -/
def spanIn (column : Nat) : (lines : List Text) → (offset line : Nat) → Span
  | [], offset, _ => spanOf offset offset
  | l :: ls, offset, line =>
    if line = 1 then
      let size := (lineBody l).byteSize
      spanOf (offset + min (column - 1) size) (offset + size)
    else spanIn column ls (offset + l.byteSize) (line - 1)

/-- The span from a line and a column of a source to the end of that line; the end of the source if
    there is no such line. -/
def spanAt (source : Text) (line column : Nat) : Span :=
  if line = 0 then spanOf source.byteSize source.byteSize else spanIn column source.lines 0 line

/-! ## Reading -/

/-- Adds a remark to the diagnostics before it, which are in reverse order. -/
def addRemark (source : Text) (ds : List Diagnostic) (r : Remark) : List Diagnostic :=
  let d (s : Severity) : Diagnostic :=
    ⟨s, r.message, spanAt source r.line (r.column.getD 1), r.line, []⟩
  match r.kind, ds with
  | .error, ds => d .error :: ds
  | .warning, ds => d .warning :: ds
  | .note, [] => []
  | .note, last :: ds => { last with notes := last.notes ++ [r.message] } :: ds

/-- The diagnostics in the output of a compiler about a source. -/
def ofOutput (output source : Text) : List Diagnostic :=
  ((output.bareLines.filterMap remark?).foldl (addRemark source) []).reverse

end Diagnostic

end Retouch
