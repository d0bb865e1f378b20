/-
  TOML documents.

  A document is a sequence of lines that matter: headers of tables and assignments (`Line`).
  `Document.ofLines?` builds the tree of tables that they describe, and refuses a sequence that
  defines something twice.  A table remembers how it came about, since this decides what may be
  added to it: by a header of its own, as part of a longer header, by dotted keys, or as a value
  between braces, which is complete.
-/
import Retouch.Text.Basic

namespace Retouch

/-- How a table came about. -/
inductive TableKind where
  | headed
  | implied
  | dotted
  | complete
deriving Repr, DecidableEq

/-- A TOML value. -/
inductive Toml where
  | str (t : Text)
  | int (n : Int)
  | float (x : Float)
  | bool (b : Bool)
  /-- A date, a time or both, as it is written. -/
  | date (t : Text)
  | arr (items : List Toml)
  | table (kind : TableKind) (fields : List (Text × Toml))
  /-- An array of tables, each under a header of its own; the last one comes first. -/
  | tables (items : List (List (Text × Toml)))

namespace Toml

/-- The fields of a table. -/
abbrev Fields := List (Text × Toml)

/-- A line of a document. -/
inductive Line where
  | header (path : List Text)
  | arrayHeader (path : List Text)
  | assign (path : List Text) (key : Text) (value : Toml)

/-- The fields with the value of `key` replaced by what `f` makes of it; a new field comes last. -/
def updateField (key : Text) (f : Option Toml → Option Toml) : Fields → Option Fields
  | [] => (f none).map fun v => [(key, v)]
  | (k, v) :: fields =>
    if k = key then (f (some v)).map fun v => (k, v) :: fields
    else (updateField key f fields).map ((k, v) :: ·)

/-- The fields with a new one added; none if the key is taken. -/
def addField (key : Text) (value : Toml) : Fields → Option Fields :=
  updateField key fun
    | none => some value
    | some _ => none

/-- The fields changed by `f` at the end of a path of headers.  Tables on the way come about by
    implication. -/
def changeAt (f : Fields → Option Fields) : (path : List Text) → Fields → Option Fields
  | [], fields => f fields
  | key :: path, fields =>
    fields |> updateField key fun
      | none => (changeAt f path []).map (.table .implied ·)
      | some (.table .complete _) => none
      | some (.table kind fields) => (changeAt f path fields).map (.table kind ·)
      | some (.tables (last :: before)) => (changeAt f path last).map fun t => .tables (t :: before)
      | some _ => none

/-- The fields with a value assigned at the end of a path of dotted keys; `here` tells whether they
    came about by dotted keys themselves. -/
def assignAt (key : Text) (value : Toml) :
    (path : List Text) → (started here : Bool) → Fields → Option Fields
  | [], started, here, fields => if started && !here then none else addField key value fields
  | k :: path, _, _, fields =>
    fields |> updateField k fun
      | none => (assignAt key value path true true []).map (.table .dotted ·)
      | some (.table .dotted fields) =>
        (assignAt key value path true true fields).map (.table .dotted ·)
      | some (.table .implied fields) =>
        (assignAt key value path true false fields).map (.table .implied ·)
      | some _ => none

/-- The fields with a value assigned under dotted keys. -/
def assign (path : List Text) (key : Text) (value : Toml) (fields : Fields) : Option Fields :=
  assignAt key value path false false fields

/-- The fields with a table under a header of its own. -/
def openTable (key : Text) : Fields → Option Fields :=
  updateField key fun
    | none => some (.table .headed [])
    | some (.table .implied fields) => some (.table .headed fields)
    | some _ => none

/-- The fields with one more table in an array of tables. -/
def openArrayTable (key : Text) : Fields → Option Fields :=
  updateField key fun
    | none => some (.tables [[]])
    | some (.tables items) => some (.tables ([] :: items))
    | some _ => none

/-- A document so far: its fields, and the path of the header that assignments belong to. -/
structure Document where
  fields : Fields := []
  current : List Text := []

namespace Document

/-- The document after one more line. -/
def add? (d : Document) : Line → Option Document
  | .header path => do
    let fields ← changeAt (openTable (path.getLast?.getD [])) path.dropLast d.fields
    return ⟨fields, path⟩
  | .arrayHeader path => do
    let fields ← changeAt (openArrayTable (path.getLast?.getD [])) path.dropLast d.fields
    return ⟨fields, path⟩
  | .assign path key value => do
    let fields ← changeAt (Toml.assign path key value) d.current d.fields
    return ⟨fields, d.current⟩

/-- The fields that the lines of a document describe. -/
def ofLines? (lines : List Line) : Option Fields :=
  (lines.foldlM add? {}).map (·.fields)

end Document

end Toml

end Retouch
