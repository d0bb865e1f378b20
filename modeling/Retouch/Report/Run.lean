/-
  The report of a run: which passes changed the text and how many lines they touched, as a value
  (`RunReport.toJson`) and as a table (`Trail.table?`).  There is none if the script of a stage cannot
  be rendered.
-/
import Retouch.Json.Basic
import Retouch.Pipeline
import Retouch.Text.Columns

namespace Retouch

/-- What a report says about one stage. -/
structure StageReport where
  index : Nat
  pass : String
  changed : Bool
  inserted : Nat
  deleted : Nat
  diff : Text

/-- What a report says about a run. -/
structure RunReport where
  inputFingerprint : Text
  outputFingerprint : Text
  stages : List StageReport
  output : Text

/-- The number of kept lines around the changes in a report. -/
def reportContext : Nat := 3

/-- The report of a stage; nothing if its script cannot be rendered. -/
def Stage.report? (s : Stage) : Option StageReport :=
  let d := s.script
  (d.unified? s.pass.toList reportContext).map fun diff =>
    { index := s.index
      pass := s.pass
      changed := s.changed
      inserted := d.insertions
      deleted := d.deletions
      diff := diff }

/-- The report of a run; nothing if a stage has none. -/
def Trail.report? (r : Trail) : Option RunReport :=
  (r.stages.mapM Stage.report?).map fun stages =>
    { inputFingerprint := r.input.shortFingerprint
      outputFingerprint := r.output.shortFingerprint
      stages := stages
      output := r.output.text }

namespace StageReport

/-- Whether the stage changed the text, in a word. -/
def mark (s : StageReport) : Text := (if s.changed then "yes" else "no").toList

/-- The report of a stage as a value. -/
def toJson (s : StageReport) : Json :=
  .object [("index", .nat s.index), ("pass", .string s.pass), ("changed", .bool s.changed),
    ("inserted", .nat s.inserted), ("deleted", .nat s.deleted), ("diff", .text s.diff)]

end StageReport

namespace RunReport

/-- The report of a run as a value. -/
def toJson (r : RunReport) : Json :=
  .object [("input_fingerprint", .text r.inputFingerprint),
    ("output_fingerprint", .text r.outputFingerprint),
    ("stages", .array StageReport.toJson r.stages), ("output", .text r.output)]

/-- A row of the table of a run. -/
def row (stage pass changed inserted deleted : Text) : Text :=
  stage.padRight 6 ++ [' '] ++ pass.padRight 24 ++ [' '] ++ changed.padLeft 8 ++ [' '] ++
    inserted.padLeft 6 ++ [' '] ++ deleted.padLeft 6 ++ ['\n']

/-- The row of a stage. -/
def stageRow (s : StageReport) : Text :=
  row (Text.ofNat s.index) s.pass.toList s.mark (Text.ofNat s.inserted) (Text.ofNat s.deleted)

/-- The lines that all stages add. -/
def inserted (r : RunReport) : Nat := r.stages.foldr (fun s n => s.inserted + n) 0

/-- The lines that all stages drop. -/
def deleted (r : RunReport) : Nat := r.stages.foldr (fun s n => s.deleted + n) 0

/-- The head of the table: what the run started from and ended in, and the columns. -/
def heading (r : RunReport) : Text :=
  "Pipeline report: ".toList ++ r.inputFingerprint ++ " -> ".toList ++ r.outputFingerprint ++
    ['\n'] ++ row "Stage".toList "Pass".toList "changed".toList ['+'] ['-'] ++ Text.rule 54

/-- The row of the totals, with the number of passes that changed the text. -/
def totalRow (r : RunReport) (changed : Nat) : Text :=
  row "TOTAL".toList [] (Text.ofNat changed) (Text.ofNat r.inserted) (Text.ofNat r.deleted)

/-- The table of a run: a row for each stage and their totals. -/
def table (r : RunReport) (changed : Nat) : Text :=
  r.heading ++ r.stages.flatMap stageRow ++ Text.rule 54 ++ r.totalRow changed

end RunReport

/-- The table that reports a run; nothing if there is no report. -/
def Trail.table? (r : Trail) : Option Text :=
  r.report?.map fun report => report.table r.effective.length

end Retouch
