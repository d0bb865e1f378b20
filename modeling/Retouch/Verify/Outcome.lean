/-
  Outcomes of building and running a program, and the comparison of two of them.

  A variant either ran to its end, ran into the time limit, or could not be built and started.  Two
  variants that both ran are equivalent if their outputs and their exit codes agree.  Times are in
  microseconds.
-/
import Retouch.Diagnostic.Basic

namespace Retouch

/-- What a finished program left behind.  The exit code is missing if a signal ended it. -/
structure Execution where
  stdout : Text
  stderr : Text
  exitCode : Option Int
  elapsed : Nat
deriving Repr, DecidableEq

/-- Why a file could not be started. -/
inductive LaunchFault where
  | notFound
  | permissionDenied
  | invalidInput
  | outOfMemory
  | badFormat
  | other
deriving Repr, DecidableEq

namespace LaunchFault

/-- The kind of a fault in words. -/
def label : LaunchFault → String
  | notFound => "entity not found"
  | permissionDenied => "permission denied"
  | invalidInput => "invalid input parameter"
  | outOfMemory => "out of memory"
  | badFormat => "uncategorized error"
  | other => "other error"

/-- The message of the operating system. -/
def message : LaunchFault → String
  | notFound => "No such file or directory (os error 2)"
  | permissionDenied => "Permission denied (os error 13)"
  | invalidInput => "Invalid argument (os error 22)"
  | outOfMemory => "Cannot allocate memory (os error 12)"
  | badFormat => "Exec format error (os error 8)"
  | other => "other error"

end LaunchFault

/-- Why a variant could not be built. -/
inductive BuildFault where
  /-- The compiler failed; the code is missing if a signal ended it. -/
  | exit (code : Option Int)
  | timedOut (limit : Nat)
  | missingArtifact
  | notExecutable (fault : LaunchFault)
deriving Repr, DecidableEq

/-- A build that failed, and what the compiler said. -/
structure BuildFailure where
  fault : BuildFault
  stdout : Text
  stderr : Text
  diagnostics : List Diagnostic
deriving Repr, DecidableEq

/-- What became of a variant. -/
inductive Outcome where
  | completed (e : Execution)
  | executionFailed (e : Execution)
  | timedOut (limit : Nat)
  | compilationFailed (f : BuildFailure)
deriving Repr, DecidableEq

namespace Outcome

/-- The execution of a variant that ran. -/
def execution? : Outcome → Option Execution
  | completed e | executionFailed e => some e
  | timedOut _ | compilationFailed _ => none

/-- The name of an outcome. -/
def label : Outcome → String
  | completed _ => "completed"
  | executionFailed _ => "execution-failed"
  | timedOut _ => "timed-out"
  | compilationFailed _ => "compilation-failed"

end Outcome

/-- Whether a program ended well. -/
def Execution.success (e : Execution) : Bool := e.exitCode = some 0

/-- How two variants compare. -/
inductive Verdict where
  | equivalent
  | diverged (stdoutDiffers exitDiffers : Bool)
  | inconclusive
deriving Repr, DecidableEq

/-- The outcomes of the program as it was and as it is now. -/
structure Verification where
  baseline : Outcome
  candidate : Outcome
deriving Repr, DecidableEq

/-- The comparison of the two variants. -/
def Verification.verdict (v : Verification) : Verdict :=
  match v.baseline.execution?, v.candidate.execution? with
  | some a, some b =>
    if a.stdout ≠ b.stdout ∨ a.exitCode ≠ b.exitCode then
      .diverged (a.stdout ≠ b.stdout) (a.exitCode ≠ b.exitCode)
    else .equivalent
  | _, _ => .inconclusive

end Retouch
