/-
  The plain rendering of a diagnostic: its message, and a frame with the line it is about, in which
  the span is underlined and the message hangs from the middle of the underline.

  The layout is meant for spans that lie in one line of an ASCII text.  A span that reaches beyond
  the end of the last line leaves the frame empty, and one outside the text leaves the message alone.
  Of the notes only the last is shown.
-/
import Retouch.Diagnostic.Basic
import Retouch.Text.Columns

namespace Retouch.Diagnostic

/-- The place of a span in a text: a line, its number and its offset. -/
structure Place where
  line : Text
  number : Nat
  offset : Nat
deriving Repr, DecidableEq

/-- The last line that does not start behind `start`; `found` is the last one so far, and `lines`
    start at `number` and `offset`. -/
def placeFrom (start : Nat) :
    (found : Option Place) → (lines : List Text) → (number offset : Nat) → Option Place
  | found, [], _, _ => found
  | found, l :: ls, number, offset =>
    if offset ≤ start then placeFrom start (some ⟨l, number, offset⟩) ls (number + 1) (offset + l.byteSize)
    else found

/-- The place of a span, if the span lies in the text. -/
def place? (source : Text) (span : Span) : Option Place :=
  if source.byteSize < span.start ∨ (span.start < span.stop ∧ source.byteSize < span.stop - 1) then
    none
  else placeFrom span.start none source.lines 1 0

/-- Tabs reach to the next multiple of this column. -/
def tabWidth : Nat := 4

/-- The width of a character in a column. -/
def charWidth (column : Nat) (c : Char) : Nat :=
  if c = '\t' then (column / tabWidth + 1) * tabWidth - column else 1

/-- A line as it is shown, with tabs as blanks. -/
def shownLine (line : Text) : Text :=
  line.zipIdx.flatMap fun (c, column) =>
    if c = '\t' then List.replicate (charWidth column c) ' ' else [c]

/-- A cell of a row below a line: a character, and copies of another one up to the width that the
    line has in this column. -/
def cell (line : Text) (column : Nat) (head tail : Char) : Text :=
  let width := ((line.drop column).head?.map (charWidth column)).getD 1
  head :: List.replicate (width - 1) tail

/-- The underline of the columns `s ≤ column < e`, with a hook in the middle. -/
def underline (line : Text) (s e : Nat) : Text :=
  let mid := (s + e) / 2
  (List.range (e + 2)).flatMap fun column =>
    if column = mid then
      if s ≤ mid ∧ mid < e then cell line column '┬' '─' else cell line column '│' ' '
    else if s ≤ column ∧ column < e then cell line column '─' '─'
    else cell line column ' ' ' '

/-- The arm that leads from the hook to the message. -/
def arm (line : Text) (s e : Nat) : Text :=
  let mid := (s + e) / 2
  (List.range (e + 2)).flatMap fun column =>
    if column < mid then cell line column ' ' ' '
    else if column = mid then cell line column '╰' '─'
    else cell line column '─' '─'

/-- The word in front of the message. -/
def heading : Severity → Text
  | .error => "Error: ".toList
  | .warning => "Warning: ".toList

/-- Whether a span reaches beyond the end of its line. -/
def Place.isExceeded (p : Place) (span : Span) : Bool :=
  span.start < span.stop && p.offset + p.line.byteSize < span.stop

/-- The rows of a frame: the line, its underline and the message; an empty row if the span reaches
    beyond the line. -/
def rows (d : Diagnostic) (p : Place) (number margin : Text) : Text :=
  if p.isExceeded d.span then margin ++ "│ \n".toList
  else
    let s := d.span.start - p.offset
    let e := d.span.stop - p.offset
    let line := Text.trimEnd p.line
    [' '] ++ number ++ " │ ".toList ++ shownLine line ++ ['\n'] ++
      margin ++ "│ ".toList ++ underline line s e ++ ['\n'] ++
      margin ++ "│ ".toList ++ arm line s e ++ [' '] ++ d.message ++ ['\n']

/-- The frame around the line of a diagnostic. -/
def frame (d : Diagnostic) (filename : Text) (p : Place) : Text :=
  let number := Text.ofNat p.number
  let margin := List.replicate (number.length + 2) ' '
  let note := match d.notes.getLast? with
    | none => []
    | some n => margin ++ "│ \n".toList ++ margin ++ "│ Note: ".toList ++ n ++ ['\n']
  margin ++ "╭─[".toList ++ filename ++ [':'] ++ number ++ [':'] ++
    Text.ofNat (d.span.start - p.offset + 1) ++ "]\n".toList ++
    margin ++ "│\n".toList ++ d.rows p number margin ++
    note ++ List.replicate (number.length + 2) '─' ++ "╯\n".toList

/-- The plain rendering of a diagnostic about a source in a file. -/
def plain (d : Diagnostic) (filename source : Text) : Text :=
  heading d.severity ++ d.message ++ ['\n'] ++
    ((place? source d.span).map (d.frame filename)).getD []

end Retouch.Diagnostic
