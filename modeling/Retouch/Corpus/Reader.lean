/-
  Reading of corpora.

  A corpus file holds records with a `code` and an `optimized_code`, in one of three formats: a CSV
  table with a header, a JSON array, or JSON Lines, one record to a line.  Only records that have
  both become entries.  In JSON a missing or null field is missing, and a record may also be an array
  of the two; in CSV an empty cell is missing.
-/
import Retouch.Corpus.Basic
import Retouch.Csv
import Retouch.Files.Tree
import Retouch.Json.Reader

namespace Retouch.Corpus

/-- A record of a corpus file. -/
structure Record where
  code : Option Text
  optimized : Option Text
deriving Repr, DecidableEq

/-- The entry of a record that has both fields. -/
def Record.entry? (r : Record) : Option Entry := do
  return ⟨← r.code, ← r.optimized⟩

/-- What is wrong with a CSV table. -/
inductive TableFault where
  /-- A record does not have as many fields as the header. -/
  | unequalLengths (expected found : Nat)
  /-- The header names a wanted column twice. -/
  | repeatedColumn
deriving Repr, DecidableEq

/-- Why a corpus cannot be loaded. -/
inductive Fault where
  | read (fault : ReadFault)
  /-- The line, counted from one, is no record. -/
  | record (line : Nat)
  /-- The text is no array of records. -/
  | document
  | table (fault : TableFault)
deriving Repr, DecidableEq

/-! ## JSON -/

/-- The name of the first field. -/
def codeKey : Text := "code".toList

/-- The name of the second field. -/
def optimizedKey : Text := "optimized_code".toList

/-- A text that may be missing. -/
def optionalText? : Json → Option (Option Text)
  | .null => some none
  | .str (some t) => some (some t)
  | _ => none

/-- The text of a field that occurs at most once. -/
def fieldText? (key : Text) (fields : List (Option Text × Json)) : Option (Option Text) :=
  match fields.filter (·.1 == some key) with
  | [] => some none
  | [(_, value)] => optionalText? value
  | _ => none

/-- The record that a value denotes. -/
def Record.ofJson? : Json → Option Record
  | .arr [a, b] => do return ⟨← optionalText? a, ← optionalText? b⟩
  | .obj fields =>
    if fields.any (·.1.isNone) then none
    else do return ⟨← fieldText? codeKey fields, ← fieldText? optimizedKey fields⟩
  | _ => none

/-- The record that a text denotes. -/
def Record.parse? (t : Text) : Option Record := (Json.parse? t).bind Record.ofJson?

/-- The records of a JSON array. -/
def arrayRecords? (t : Text) : Option (List Record) :=
  match Json.parse? t with
  | some (.arr items) => items.mapM Record.ofJson?
  | _ => none

/-- Whether a line holds nothing but white space. -/
def isBlankLine (line : Text) : Bool := (Text.trim line).isEmpty

/-- The records of lines that are numbered from `n`, without the blank ones. -/
def lineRecords : (n : Nat) → (lines : List Text) → Except Fault (List Record)
  | _, [] => .ok []
  | n, line :: lines =>
    if isBlankLine line then lineRecords (n + 1) lines
    else
      match Record.parse? line with
      | none => .error (.record n)
      | some r => (lineRecords (n + 1) lines).map (r :: ·)

/-! ## CSV -/

/-- The cell of a record in the columns named `key`, of which there is at most one; an empty cell is
    missing. -/
def cell (key : Text) (header record : Csv.Record) : Except TableFault (Option Text) :=
  match (header.zip record).filter (·.1 == key) with
  | [] => .ok none
  | [(_, t)] => .ok (if t.isEmpty then none else some t)
  | _ => .error .repeatedColumn

/-- The record of a row under a header. -/
def rowRecord (header row : Csv.Record) : Except TableFault Record :=
  if row.length ≠ header.length then .error (.unequalLengths header.length row.length)
  else do return ⟨← cell codeKey header row, ← cell optimizedKey header row⟩

/-- The records of a CSV table. -/
def tableRecords (t : Text) : Except TableFault (List Record) :=
  match Csv.read (Text.dropByteOrderMark t) with
  | [] => .ok []
  | header :: rows => rows.mapM (rowRecord header)

/-! ## Files -/

/-- Whether a file name says that the file is a CSV table. -/
def isTable (path : Text) : Bool :=
  (Path.extension? path).any fun e => Text.toAsciiLower e == "csv".toList

/-- Whether a text starts as a JSON array. -/
def isArray (t : Text) : Bool := (Text.trimStart t).head? == some '['

/-- The records of a file with the given name. -/
def records (path t : Text) : Except Fault (List Record) :=
  if isTable path then (tableRecords t).mapError .table
  else if isArray t then
    match arrayRecords? t with
    | some rs => .ok rs
    | none => .error .document
  else lineRecords 1 (Text.bareLines t)

/-- The corpus in a text, from a file with the given name. -/
def parse (path t : Text) : Except Fault Corpus :=
  (records path t).map (·.filterMap Record.entry?)

/-- The corpus in the file that a path leads to. -/
def load (t : Tree) (cwd : Place) (path : Text) : Except Fault Corpus :=
  match t.readText cwd path with
  | .error fault => .error (.read fault)
  | .ok text => parse path text

end Retouch.Corpus
