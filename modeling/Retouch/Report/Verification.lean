/-
  The report of a verification, as a value (`VerificationReport.toJson`) and as a table
  (`VerificationReport.table`).
-/
import Retouch.Json.Basic
import Retouch.Text.Columns
import Retouch.Verify.Outcome

namespace Retouch

/-- What a report says about one variant; times are in milliseconds. -/
structure VariantReport where
  variant : String
  outcome : String
  exitCode : Option Int := none
  stdout : Option Text := none
  stderr : Option Text := none
  elapsedMs : Option Nat := none
  timeoutMs : Option Nat := none
  compileFailure : Option Text := none
  diagnostics : List Diagnostic := []

/-- What a report says about a verification. -/
structure VerificationReport where
  baseline : VariantReport
  candidate : VariantReport
  verdict : Verdict

/-- Whole milliseconds in a number of microseconds. -/
def milliseconds (us : Nat) : Nat := us / 1000

/-- Why a build failed, in words. -/
def BuildFault.label : BuildFault → Text
  | .exit (some code) => "exit status ".toList ++ (toString code).toList
  | .exit none => "terminated by signal".toList
  | .timedOut limit => "timed out after ".toList ++ Text.ofNat (milliseconds limit) ++ "ms".toList
  | .missingArtifact => "no artifact produced".toList
  | .notExecutable fault => "artifact not executable: ".toList ++ fault.label.toList

namespace VariantReport

/-- The report of a variant. -/
def of (variant : String) (o : Outcome) : VariantReport :=
  match o with
  | .completed e | .executionFailed e =>
    { variant, outcome := o.label, exitCode := e.exitCode, stdout := some e.stdout,
      stderr := some e.stderr, elapsedMs := some (milliseconds e.elapsed) }
  | .timedOut limit => { variant, outcome := o.label, timeoutMs := some (milliseconds limit) }
  | .compilationFailed f =>
    { variant, outcome := o.label, stderr := some f.stderr, compileFailure := some f.fault.label,
      diagnostics := f.diagnostics }

end VariantReport

/-- The report of a verification. -/
def Verification.report (v : Verification) : VerificationReport :=
  { baseline := .of "original" v.baseline
    candidate := .of "rewritten" v.candidate
    verdict := v.verdict }

/-! ## As values -/

/-- The name of a severity. -/
def Severity.name : Severity → String
  | .error => "error"
  | .warning => "warning"

/-- A diagnostic as a value. -/
def Diagnostic.toJson (d : Diagnostic) : Json :=
  .object [("severity", .string d.severity.name), ("message", .text d.message),
    ("span", .object [("start", .nat d.span.start), ("end", .nat d.span.stop)]),
    ("line", .nat d.line), ("notes", .array Json.text d.notes)]

/-- A verdict as a value. -/
def Verdict.toJson : Verdict → Json
  | .equivalent => .object [("verdict", .string "equivalent")]
  | .inconclusive => .object [("verdict", .string "inconclusive")]
  | .diverged stdoutDiffers exitDiffers =>
    .object [("verdict", .string "diverged"), ("stdout_differs", .bool stdoutDiffers),
      ("exit_differs", .bool exitDiffers)]

/-- The report of a variant as a value. -/
def VariantReport.toJson (v : VariantReport) : Json :=
  .object [("variant", .string v.variant), ("outcome", .string v.outcome),
    ("exit_code", .opt Json.int v.exitCode), ("stdout", .opt Json.text v.stdout),
    ("stderr", .opt Json.text v.stderr), ("elapsed_ms", .opt Json.nat v.elapsedMs),
    ("timeout_ms", .opt Json.nat v.timeoutMs), ("compile_failure", .opt Json.text v.compileFailure),
    ("diagnostics", .array Diagnostic.toJson v.diagnostics)]

/-- The report of a verification as a value. -/
def VerificationReport.toJson (v : VerificationReport) : Json :=
  .object [("original", v.baseline.toJson), ("rewritten", v.candidate.toJson),
    ("equivalence", v.verdict.toJson)]

/-! ## As a table -/

/-- A verdict in words. -/
def Verdict.label : Verdict → Text
  | .equivalent => "equivalent (stdout and exit code match)".toList
  | .inconclusive => "inconclusive (a variant did not run)".toList
  | .diverged stdoutDiffers exitDiffers =>
    let parts := (if stdoutDiffers then ["stdout".toList] else []) ++
      (if exitDiffers then ["exit code".toList] else [])
    "diverged (".toList ++ [',', ' '].intercalate parts ++ " differ)".toList

namespace VariantReport

/-- A row of the table of a verification. -/
def row (variant outcome exit elapsed detail : Text) : Text :=
  variant.padRight 10 ++ [' '] ++ outcome.padRight 20 ++ [' '] ++ exit.padLeft 6 ++ [' '] ++
    elapsed.padLeft 10 ++ "  ".toList ++ detail ++ ['\n']

/-- Why the variant did not run to its end. -/
def detail (v : VariantReport) : Text :=
  match v.compileFailure, v.timeoutMs with
  | some reason, _ => reason
  | none, some ms => "killed after ".toList ++ Text.ofNat ms ++ "ms".toList
  | none, none => []

/-- The row of a variant. -/
def tableRow (v : VariantReport) : Text :=
  row v.variant.toList v.outcome.toList ((v.exitCode.map fun c => (toString c).toList).getD ['-'])
    ((v.elapsedMs.map fun ms => Text.ofNat ms ++ "ms".toList).getD ['-']) v.detail

end VariantReport

/-- The table of a verification: a row for each variant and the verdict. -/
def VerificationReport.table (v : VerificationReport) : Text :=
  "Verification report\n".toList ++
    VariantReport.row "Variant".toList "Outcome".toList "exit".toList "elapsed".toList
      "detail".toList ++
    Text.rule 64 ++ v.baseline.tableRow ++ v.candidate.tableRow ++ Text.rule 64 ++
    "Verdict: ".toList ++ v.verdict.label ++ ['\n']

end Retouch
