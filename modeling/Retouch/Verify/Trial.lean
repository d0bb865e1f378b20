/-
  Trials: two variants of a program are built and run in a scratch directory.

  The directory is made anew under a root and is gone afterwards, whatever happens.  Each variant is
  written to a file of its own, built by the toolchain, and run without input.  What a finished
  program has written is decoded with a replacement for each malformed part (`Finished.execution`).
-/
import Retouch.Settings.Basic
import Retouch.Source
import Retouch.Verify.Launch

namespace Retouch

/-- Why a verification has no outcome. -/
inductive VerifyFault where
  /-- The scratch directory cannot be made. -/
  | workspace (fault : FileFault)
  /-- The toolchain cannot be started. -/
  | spawn (program : Text) (fault : LaunchFault)
deriving Repr, DecidableEq

/-! ## Outcomes of programs -/

/-- What a finished program left behind, as texts. -/
def Finished.execution (f : Finished) : Execution :=
  { stdout := f.stdout.toText
    stderr := f.stderr.toText
    exitCode := f.exitCode
    elapsed := f.elapsed }

/-- What became of a variant that ran to its end. -/
def Finished.outcome (f : Finished) : Outcome :=
  if f.success then .completed f.execution else .executionFailed f.execution

/-- Microseconds in a number of milliseconds. -/
def microseconds (ms : Nat) : Nat := 1000 * ms

/-- What became of a variant that was started with a limit in milliseconds. -/
def Bounded.outcome (limit : Nat) : Bounded → Outcome
  | .finished f => f.outcome
  | .overtime => .timedOut (microseconds limit)

/-- What became of a variant that could not be started. -/
def LaunchFault.outcome (fault : LaunchFault) : Outcome :=
  .compilationFailed
    { fault := .notExecutable fault, stdout := [], stderr := fault.message.toList, diagnostics := [] }

/-- The failure of a build, if it failed; `built` tells whether there is a file in the end. -/
def Bounded.buildFailure? (limit : Nat) (source : Source) (built : Bool) :
    Bounded → Option BuildFailure
  | .overtime =>
    some { fault := .timedOut (microseconds limit), stdout := [], stderr := [], diagnostics := [] }
  | .finished f =>
    let failure (fault : BuildFault) : BuildFailure :=
      { fault
        stdout := f.stdout.toText
        stderr := f.stderr.toText
        diagnostics := Diagnostic.ofOutput f.stderr.toText source.text }
    if !f.success then some (failure (.exit f.exitCode))
    else if !built then some (failure .missingArtifact)
    else none

/-! ## The scratch directory -/

/-- Where scratch directories are made if nothing else is said. -/
def temporaryDirectory : Text := "/tmp".toList

/-- The name of a scratch directory. -/
def workspaceName (n : Nat) : Octets :=
  let digits := Text.ofNat n
  "codeopt-".toList ++ List.replicate (6 - digits.length) 'x' ++ digits

/-- A scratch directory is for its owner only. -/
def workspaceMode : Nat := 0o700

/-- The tree with a new scratch directory in a directory, and its place. -/
def makeWorkspace (tree : Tree) (cwd : Place) (root : Text) : Except FileFault (Tree × Place) := do
  let place ← tree.locate cwd (Octets.ofText root)
  match tree.node? place with
  | none => .error .missing
  | some (.directory _) =>
    let taken := tree.list place
    let n := ((List.range (taken.length + 1)).find? fun n => !taken.contains (workspaceName n)).getD 0
    let dir := place ++ [workspaceName n]
    return (← tree.makeDirectory dir workspaceMode, dir)
  | some _ => .error .notDirectory

/-! ## Trials -/

/-- The two variants of a program. -/
inductive Variant where
  | baseline
  | candidate
deriving Repr, DecidableEq

/-- What the files of a variant are named after. -/
def Variant.stem : Variant → String
  | .baseline => "original"
  | .candidate => "rewritten"

/-- Starts a program, unless its name or an argument holds a null character, which no system takes. -/
def Launcher.start (launcher : Launcher) (tree : Tree) (launch : Launch) :
    Except LaunchFault (Tree × Bounded) :=
  if (launch.program :: launch.args).any (·.contains '\x00') then .error .invalidInput
  else launcher tree launch

/-- Where the source of a variant is written. -/
def Variant.sourceFile (variant : Variant) (dir : Place) (source : Source) : Place :=
  dir ++ [(variant.stem ++ "." ++ source.language.extension).toList]

/-- Where the program built from a variant is expected. -/
def Variant.artifact (variant : Variant) (dir : Place) : Place :=
  dir ++ [(variant.stem ++ "_exe").toList]

/-- The tree with the source of a variant. -/
def Variant.write (variant : Variant) (dir : Place) (source : Source) (tree : Tree) : Tree :=
  tree.put (variant.sourceFile dir source) (.file (Octets.ofText source.text) ⟨fileMode, tree.now⟩)

/-- Builds a variant in the scratch directory; the failure of the build, if it failed. -/
def Variant.build (variant : Variant) (launcher : Launcher) (s : VerifySettings) (dir : Place)
    (source : Source) (tree : Tree) : Except VerifyFault (Tree × Option BuildFailure) :=
  let artifact := Place.path (variant.artifact dir)
  let args := s.toolchain.arguments (Place.path (variant.sourceFile dir source)).toText artifact.toText
  let launch : Launch :=
    { program := Octets.ofText s.toolchain.program
      args := args.map Octets.ofText
      directory := dir
      limit := s.compileTimeoutMs }
  match launcher.start tree launch with
  | .error fault => .error (.spawn s.toolchain.program fault)
  | .ok (tree, bounded) =>
    .ok (tree, bounded.buildFailure? s.compileTimeoutMs source (tree.isFile [] artifact))

/-- Runs the program built from a variant, unless its build failed. -/
def Variant.run (variant : Variant) (launcher : Launcher) (s : VerifySettings) (dir : Place)
    (failure : Option BuildFailure) (tree : Tree) : Tree × Outcome :=
  match failure with
  | some failure => (tree, .compilationFailed failure)
  | none =>
    let launch : Launch :=
      { program := Place.path (variant.artifact dir)
        args := []
        directory := dir
        limit := s.runTimeoutMs }
    match launcher.start tree launch with
    | .error fault => (tree, fault.outcome)
    | .ok (tree, bounded) => (tree, bounded.outcome s.runTimeoutMs)

/-- Both variants side by side in the scratch directory: both are written before either is built, and
    built before either is run.  A fault of the baseline goes before one of the candidate. -/
def trial (launcher : Launcher) (s : VerifySettings) (dir : Place) (baseline candidate : Source)
    (tree : Tree) : Tree × Except VerifyFault Verification :=
  let tree := Variant.candidate.write dir candidate (Variant.baseline.write dir baseline tree)
  match Variant.baseline.build launcher s dir baseline tree with
  | .error fault => (tree, .error fault)
  | .ok (tree, failure) =>
    match Variant.candidate.build launcher s dir candidate tree with
    | .error fault => (tree, .error fault)
    | .ok (tree, failure') =>
      let (tree, first) := Variant.baseline.run launcher s dir failure tree
      let (tree, second) := Variant.candidate.run launcher s dir failure' tree
      (tree, .ok ⟨first, second⟩)

/-- Builds and runs both variants, and gives the tree without the scratch directory. -/
def verify (launcher : Launcher) (s : VerifySettings) (tree : Tree) (cwd : Place)
    (baseline candidate : Source) : Tree × Except VerifyFault Verification :=
  match makeWorkspace tree cwd (s.workspaceRoot.getD temporaryDirectory) with
  | .error fault => (tree, .error (.workspace fault))
  | .ok (tree, dir) =>
    let (tree, result) := trial launcher s dir baseline candidate tree
    (tree.erase dir, result)

end Retouch
