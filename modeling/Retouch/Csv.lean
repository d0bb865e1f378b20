/-
  Comma-separated records.

  A record ends at a newline or a carriage return; lines with nothing on them are no records.  A field
  that starts by a quote runs to the closing quote and may hold commas and line ends, with a quote
  written twice; what follows the closing quote up to the next comma is added as it stands.  A quote
  inside another field means itself.
-/
import Retouch.Text.Basic

namespace Retouch.Csv

/-- A record is the list of its fields. -/
abbrev Record := List Text

/-- Where a reader stands. -/
inductive State where
  /-- At the start of a line. -/
  | record
  /-- At the start of a field. -/
  | field
  /-- Inside a field. -/
  | plain
  /-- Inside quotes. -/
  | quoted
  /-- Behind a quote that may have closed the field. -/
  | closing
deriving Repr, DecidableEq

/-- Whether a character ends a record. -/
def isLineEnd (c : Char) : Bool := c == '\n' || c == '\r'

/-- Reads records from a state, given the fields of the record so far and the characters of the field
    so far, both in reverse. -/
def readFrom : State → (fields : List Text) → (current : Text) → Text → List Record
  | .record, _, _, [] => []
  | _, fields, current, [] => [(current.reverse :: fields).reverse]
  | .quoted, fields, current, c :: t =>
    if c = '"' then readFrom .closing fields current t
    else readFrom .quoted fields (c :: current) t
  | state, fields, current, c :: t =>
    if state = .record ∧ isLineEnd c then readFrom .record [] [] t
    else if isLineEnd c then (current.reverse :: fields).reverse :: readFrom .record [] [] t
    else if c = ',' then readFrom .field (current.reverse :: fields) [] t
    else if c = '"' ∧ (state = .record ∨ state = .field) then readFrom .quoted fields current t
    else if c = '"' ∧ state = .closing then readFrom .quoted fields (c :: current) t
    else readFrom .plain fields (c :: current) t

/-- The records of a text. -/
def read (t : Text) : List Record := readFrom .record [] [] t

/-- A field between quotes. -/
def quoteField (t : Text) : Text :=
  ['"'] ++ t.flatMap (fun c => if c = '"' then ['"', '"'] else [c]) ++ ['"']

end Retouch.Csv
