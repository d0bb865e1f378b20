/-
  The commands of the program, and what a command line asks for.
-/
import Retouch.Command.Grammar
import Retouch.Report.Run

namespace Retouch.Command

/-- The name of the program. -/
def programName : String := "codeopt"

/-- The version of the program. -/
def programVersion : String := "0.1.0"

/-- What the program is for. -/
def programAbout : String :=
  "Rewrite C/C++ sources with textual passes and check the result by building and running it"

/-! ## Options and commands -/

/-- The settings file; this option is known everywhere. -/
def configOption : Parameter where
  name := "config"
  kind := some .path
  about := "Config file (default: nearest codeopt.toml above the working directory)"

/-- The corpus. -/
def corpusOption : Parameter where
  name := "corpus"
  kind := some .path
  about := "Corpus of known optimizations (JSON array, JSON Lines or CSV)"

/-- The source file of a command. -/
def inputOperand : Operand := ⟨"INPUT", "Input C/C++ source file"⟩

/-- Answers with an improved text. -/
def optimizeSpec : Spec where
  name := "optimize"
  about := "Optimize a source file (corpus answer or rule-based rewrite)"
  operands := [inputOperand]
  parameters := [corpusOption,
    { name := "stages", about := "Print the per-stage table to stderr" },
    { name := "json", about := "Emit a JSON report instead of the optimized source" },
    configOption]

/-- Shows what each stage of the pipeline changes. -/
def diffSpec : Spec where
  name := "diff"
  about := "Show the unified diff of each pipeline stage"
  operands := [inputOperand]
  parameters := [
    { name := "context", kind := some .count, about := "Lines of context around each hunk"
      initial := some (toString reportContext) },
    configOption]

/-- Compares two programs. -/
def verifySpec : Spec where
  name := "verify"
  about := "Build and run two programs and compare their output"
  operands := [⟨"ORIGINAL", "Original program"⟩, ⟨"REWRITTEN", "Rewritten program"⟩]
  parameters := [{ name := "json", about := "Emit a JSON report" }, configOption]

/-- Improves a text and compares it with what it was. -/
def runSpec : Spec where
  name := "run"
  about := "Optimize a file, then verify the rewrite against the original"
  operands := [inputOperand]
  parameters := [corpusOption, { name := "json", about := "Emit a JSON report" }, configOption]

/-- The commands of the program. -/
def specs : List Spec := [optimizeSpec, diffSpec, verifySpec, runSpec]

/-- The name of the command that shows help. -/
def helpName : String := "help"

/-- What the command that shows help is for. -/
def helpAbout : String := "Print this message or the help of the given subcommand(s)"

/-- The program before its command: it takes options only. -/
def programSpec : Spec :=
  { name := programName, about := programAbout, parameters := [configOption] }

/-! ## Requests -/

/-- What is asked for. -/
inductive Request where
  | optimize (input : Text) (corpus : Option Text) (stages json : Bool)
  | diff (input : Text) (context : Nat)
  | verify (baseline candidate : Text) (json : Bool)
  | run (input : Text) (corpus : Option Text) (json : Bool)
deriving Repr, DecidableEq

/-- A request, and the settings file if one is named. -/
structure Invocation where
  config : Option Text
  request : Request
deriving Repr, DecidableEq

/-- The request that a command makes of what it is given. -/
def request (command : String) (g : Given) : Except Stop Request :=
  match command, g.operands with
  | "optimize", [input] =>
    .ok (.optimize input (g.value? "corpus") (g.has "stages") (g.has "json"))
  | "diff", [input] =>
    .ok (.diff input (((g.value? "context").bind count?).getD reportContext))
  | "verify", [a, b] => .ok (.verify a b (g.has "json"))
  | "run", [input] => .ok (.run input (g.value? "corpus") (g.has "json"))
  | _, _ => .error .usage

/-- The help that is asked for by names of commands. -/
def helpTopic : List Text → Stop
  | [] => .help none
  | [name] =>
    if name = helpName.toList then .help (some helpName)
    else match specs.find? (·.name.toList == name) with
      | some spec => .help (some spec.name)
      | none => .usage
  | _ => .usage

/-- Reads the options of the program up to the command, and then those of the command; `fuel` bounds
    their number.  Of two settings files the one after the command counts. -/
def readInvocation : (fuel : Nat) → List Text → Given → Except Stop Invocation
  | 0, _, _ => .error .usage
  | _, [], _ => .error .usage
  | fuel + 1, a :: rest, g =>
    if a = helpName.toList then .error (helpTopic rest)
    else
      match specs.find? (·.name.toList == a), a with
      | some spec, _ => do
        let own ← spec.read rest
        let r ← request spec.name own
        return ⟨(own.value? configOption.name).or (g.value? configOption.name), r⟩
      | none, ['-', '-'] => .error .usage
      | none, '-' :: '-' :: t =>
        if t = "version".toList then .error .version
        else
          match readLong programSpec t rest g with
          | .error (.help _) => .error (.help none)
          | .error stop => .error stop
          | .ok (g, rest) => readInvocation fuel rest g
      | none, '-' :: c :: _ =>
        .error (if c = 'h' then .help none else if c = 'V' then .version else .usage)
      | none, _ => .error .usage

/-- What a command line asks for. -/
def Invocation.read (args : List Text) : Except Stop Invocation :=
  readInvocation (args.length + 1) args {}

end Retouch.Command
