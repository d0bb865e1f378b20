/-
  What the program does on a command line.

  A session works on a tree of files from a directory in it, starts programs by a launcher, and gives
  an exit code and what is written to the two outputs.  A failure is told with its causes; an overflow
  ends a session too, with an exit code of its own.
-/
import Retouch.Command.Help
import Retouch.Corpus.Reader
import Retouch.Decimal.Fixed
import Retouch.Diagnostic.Plain
import Retouch.Report.Optimize
import Retouch.Report.Verification
import Retouch.Settings.Reader
import Retouch.Verify.Trial

namespace Retouch.Command

/-! ## Sessions -/

/-- What a session works on. -/
structure Surroundings where
  tree : Tree
  directory : Place
  launcher : Launcher

/-- What has been written, in pieces, the last one first. -/
structure Console where
  stdout : List Text := []
  stderr : List Text := []

/-- Why a command fails, and the causes of that. -/
structure Failure where
  message : Text
  causes : List Text := []
deriving Repr, DecidableEq

/-- Why a session ends before its command is done. -/
inductive Break where
  /-- The command fails. -/
  | failure (f : Failure)
  /-- A position does not fit in a word. -/
  | overflow
deriving Repr, DecidableEq

/-- What the program leaves behind. -/
structure Reply where
  exitCode : Nat
  stdout : Text
  stderr : Text
deriving Repr, DecidableEq

/-- The activity of the program. -/
abbrev Session := ReaderT Surroundings (ExceptT Break (StateM Console))

/-- Ends the session by a failure. -/
def fail {α : Type} (f : Failure) : Session α := throw (.failure f)

/-- Goes on with a value, if no position overflowed on the way to it. -/
def fitting {α : Type} : Option α → Session α
  | some a => return a
  | none => throw .overflow

/-- Writes to the output. -/
def print (t : Text) : Session Unit := modify fun c => { c with stdout := t :: c.stdout }

/-- Writes to the messages. -/
def note (t : Text) : Session Unit := modify fun c => { c with stderr := t :: c.stderr }

/-- A text with `margin` blanks at the start of each line but the first. -/
def hanging (margin : Nat) (t : Text) : Text :=
  t.flatMap fun c => if c = '\n' then '\n' :: List.replicate margin ' ' else [c]

/-- The causes of a failure, each on its line; several of them are numbered.  Further lines of a
    cause stand below its first one. -/
def Failure.causeLines (causes : List Text) : Text :=
  match causes with
  | [cause] => "    ".toList ++ hanging 4 cause ++ ['\n']
  | _ =>
    (causes.mapIdx fun i cause =>
      (Text.ofNat i).padLeft 5 ++ ": ".toList ++ hanging 7 cause ++ ['\n']).flatten

/-- A failure as it is told. -/
def Failure.text (f : Failure) : Text :=
  "Error: ".toList ++ f.message ++ ['\n'] ++
    (if f.causes.isEmpty then [] else "\nCaused by:\n".toList ++ Failure.causeLines f.causes)

/-- What is told at an early end. -/
def Break.text : Break → Text
  | failure f => f.text
  | overflow => "attempt to add with overflow\n".toList

/-- The exit code of an early end. -/
def Break.exitCode : Break → Nat
  | failure _ => 1
  | overflow => 101

/-! ## Failures -/

/-- A path between the marks that messages put around it. -/
def marked (path : Text) : Text := '\x60' :: path ++ ['\x60']

/-- A fault of settings with its causes. -/
def settingsFailure : Settings.Fault → Failure
  | .read path fault =>
    ⟨"cannot read ".toList ++ marked path ++ ": ".toList ++ fault.message, [fault.message]⟩
  | .parse path =>
    ⟨"invalid config ".toList ++ marked path ++ ": TOML parse error".toList,
      ["TOML parse error".toList]⟩
  | .invalid fault => ⟨fault.message, []⟩

/-- The failure behind another one that says where it happened. -/
def Failure.within (context : Text) (f : Failure) : Failure := ⟨context, f.message :: f.causes⟩

/-- A fault of a verification with its causes. -/
def verifyFailure : VerifyFault → Failure
  | .workspace fault =>
    ⟨"cannot create verification workspace: ".toList ++ fault.message, [fault.message]⟩
  | .spawn program fault =>
    ⟨"cannot launch ".toList ++ marked program ++ ": ".toList ++ fault.message.toList,
      [fault.message.toList]⟩

/-- What is wrong with a corpus, in words. -/
def corpusMessage (path : Text) : Corpus.Fault → Text
  | .read fault => "cannot read corpus ".toList ++ marked path ++ ": ".toList ++ fault.message
  | .record line =>
    "corpus ".toList ++ marked path ++ " line ".toList ++ Text.ofNat line ++ ": not a record".toList
  | .document => "corpus ".toList ++ marked path ++ " is not a JSON array: not records".toList
  | .table (.unequalLengths expected found) =>
    "corpus ".toList ++ marked path ++ " is not valid CSV: ".toList ++ Text.ofNat found ++
      " fields in place of ".toList ++ Text.ofNat expected
  | .table .repeatedColumn =>
    "corpus ".toList ++ marked path ++ " is not valid CSV: repeated column".toList

/-! ## Steps -/

/-- The settings: from the file that is named, or from the nearest one above. -/
def loadSettings (config : Option Text) : Session Settings := do
  let s ← read
  match config with
  | some path =>
    match Settings.load s.tree s.directory path with
    | .ok settings => return settings
    | .error fault => fail ((settingsFailure fault).within ("loading ".toList ++ path))
  | none =>
    match Settings.discover s.tree (Octets.toText (Place.path s.directory)) with
    | .ok settings => return settings
    | .error fault => fail (settingsFailure fault)

/-- The source in a file; its language follows from the extension. -/
def readSource (path : Text) : Session Source := do
  let s ← read
  match s.tree.readText s.directory path with
  | .ok text => return ⟨text, ((Path.extension? path).bind Language.ofTag?).getD .cpp⟩
  | .error fault => fail ⟨"cannot read '".toList ++ path ++ ['\''], [fault.message]⟩

/-- The corpus that is named on the command line or in the settings; one that cannot be loaded is
    done without. -/
def loadRetriever (settings : Settings) (corpus : Option Text) : Session (Option Retriever) := do
  let s ← read
  match corpus.or settings.corpusPath with
  | none => return none
  | some path =>
    match Corpus.load s.tree s.directory path with
    | .ok entries => return some (Retriever.new entries)
    | .error fault =>
      note ("warning: ".toList ++ corpusMessage path fault ++
        "; using rule-based rewriting only\n".toList)
      return none

/-- What answers queries. -/
def makeSelector (settings : Settings) (corpus : Option Text) : Session Selector := do
  return ⟨← loadRetriever settings corpus, settings.pipeline, settings.minSimilarity⟩

/-- Builds and runs two programs. -/
def verifySources (settings : Settings) (baseline candidate : Source) : Session Verification := do
  let s ← read
  match (verify s.launcher settings.verify s.tree s.directory baseline candidate).2 with
  | .ok v => return v
  | .error fault => fail (verifyFailure fault)

/-- The messages of a build that failed. -/
def buildMessages (name : Text) (source : Source) : Outcome → Text
  | .compilationFailed f =>
    if f.diagnostics.isEmpty then f.stderr
    else (f.diagnostics.map fun d => d.plain name source.text).flatten
  | _ => []

/-- The line that names the row of the corpus that answered. -/
def corpusLine (index : Nat) (score : Float) : Text :=
  "Answered from corpus row ".toList ++ Text.ofNat index ++ " (similarity ".toList ++
    Decimal.fixed 3 score ++ ")\n".toList

/-- The exit code of a verdict. -/
def exitCode : Verdict → Nat
  | .equivalent => 0
  | .diverged _ _ => 1
  | .inconclusive => 2

/-- A value on lines of its own. -/
def printJson (j : Json) : Session Unit := print (j.pretty ++ ['\n'])

/-! ## Commands -/

/-- Improves a source. -/
def runOptimize (settings : Settings) (input : Text) (corpus : Option Text) (stages json : Bool) :
    Session Nat := do
  let source ← readSource input
  let optimized := (← makeSelector settings corpus).optimize source
  if json then printJson (← fitting optimized.report?).toJson
  else
    match optimized.origin with
    | .corpus index score => note (corpusLine index score)
    | .pipeline trail _ =>
      note ("Rewritten by ".toList ++ Text.ofNat trail.effective.length ++ " of ".toList ++
        Text.ofNat trail.stages.length ++ " passes\n".toList)
      if stages then note (← fitting trail.table?)
    print optimized.source.text
  return 0

/-- Shows what the stages change. -/
def runDiff (settings : Settings) (input : Text) (context : Nat) : Session Nat := do
  let source ← readSource input
  let diffs ← (settings.pipeline.run source).stages.mapM fun s => do
    let diff ← fitting (s.script.unified? s.pass.toList context)
    print diff
    return diff
  if diffs.all List.isEmpty then note ("No pass changed '".toList ++ input ++ "'\n".toList)
  return 0

/-- Compares two programs. -/
def runVerify (settings : Settings) (baseline candidate : Text) (json : Bool) : Session Nat := do
  let first ← readSource baseline
  let second ← readSource candidate
  let v ← verifySources settings first second
  if json then printJson v.report.toJson
  else
    note (buildMessages baseline first v.baseline)
    note (buildMessages candidate second v.candidate)
    note v.report.table
  return exitCode v.verdict

/-- Improves a source and compares it with what it was. -/
def runRun (settings : Settings) (input : Text) (corpus : Option Text) (json : Bool) :
    Session Nat := do
  let source ← readSource input
  let optimized := (← makeSelector settings corpus).optimize source
  let v ← verifySources settings source optimized.source
  if json then
    let report ← fitting optimized.report?
    printJson (.object [("optimize", report.toJson), ("verification", v.report.toJson)])
  else
    print ("Original Code:\n".toList ++ source.text ++ "\nOptimized Code:\n".toList ++
      optimized.source.text ++ ['\n'])
    match optimized.origin with
    | .corpus index score => note (corpusLine index score)
    | .pipeline trail _ => note (← fitting trail.table?)
    note (buildMessages input source v.baseline)
    note (buildMessages (input ++ " (optimized)".toList) optimized.source v.candidate)
    note v.report.table
  return exitCode v.verdict

/-- Carries a request out. -/
def runInvocation (i : Invocation) : Session Nat := do
  let settings ← loadSettings i.config
  match i.request with
  | .optimize input corpus stages json => runOptimize settings input corpus stages json
  | .diff input context => runDiff settings input context
  | .verify baseline candidate json => runVerify settings baseline candidate json
  | .run input corpus json => runRun settings input corpus json

/-- The pieces of an output, put together. -/
def joined (pieces : List Text) : Text := pieces.reverse.flatten

/-- What a session leaves behind. -/
def Session.reply (act : Session Nat) (s : Surroundings) : Reply :=
  match StateT.run (ExceptT.run (ReaderT.run act s)) {} with
  | (.ok code, c) => ⟨code, joined c.stdout, joined c.stderr⟩
  | (.error b, c) => ⟨b.exitCode, joined c.stdout, joined c.stderr ++ b.text⟩

/-- What the program does on a command line. -/
def execute (s : Surroundings) (args : List Text) : Reply :=
  match Invocation.read args with
  | .ok i => (runInvocation i).reply s
  | .error .usage => ⟨2, [], "error: invalid usage\n\nFor more information, try '--help'.\n".toList⟩
  | .error (.help command) => ⟨0, helpText command, []⟩
  | .error .version => ⟨0, versionText, []⟩

end Retouch.Command
