/-
  Settings: which compiler builds programs, where the corpus is, which passes run.

  Everything may be left out.  Settings are valid if the arguments of the compiler mention the file to
  be built, the least similarity is a fraction, and the passes exist; the first fault in this order
  counts.  Paths are seen from the directory of the settings file.
-/
import Retouch.Decimal.Shortest
import Retouch.Files.Path
import Retouch.Pipeline
import Retouch.Verify.Toolchain

namespace Retouch

/-- What a settings file says. -/
structure Settings where
  compiler : Option Text := none
  args : Option (List Text) := none
  compileTimeoutMs : Option Nat := none
  runTimeoutMs : Option Nat := none
  workspaceRoot : Option Text := none
  corpus : Option Text := none
  minSimilarity : Option Float := none
  extraPasses : List Text := []
  /-- The directory of the settings file. -/
  rootDir : Option Text := none

/-- How programs are verified; times are in milliseconds. -/
structure VerifySettings where
  toolchain : Toolchain
  compileTimeoutMs : Nat := 60000
  runTimeoutMs : Nat := 10000
  workspaceRoot : Option Text := none

namespace Settings

/-- The name of a settings file. -/
def fileName : Text := "codeopt.toml".toList

/-- Why settings are not valid. -/
inductive Invalid where
  | missingOutputPlaceholder
  | similarityOutOfRange (x : Float)
  | unknownPass (name : Text)

namespace Invalid

/-- The fault in words. -/
def message : Invalid → Text
  | missingOutputPlaceholder => "toolchain argument template must mention \x7boutput\x7d".toList
  | similarityOutOfRange x =>
    "min_similarity must be within 0.0..=1.0, got ".toList ++ Decimal.Style.plain.write x
  | unknownPass name =>
    "unknown pass \x60".toList ++ name ++ "\x60 in [pipeline] extra_passes".toList

end Invalid

/-- The compiler and its arguments. -/
def toolchain (s : Settings) : Toolchain :=
  ⟨s.compiler.getD Toolchain.gxx.program, s.args.getD Toolchain.gxx.args⟩

/-- A path seen from the directory of the settings file. -/
def resolve (s : Settings) (path : Text) : Text :=
  match s.rootDir with
  | some dir => Path.join dir path
  | none => path

/-- The path of the corpus. -/
def corpusPath (s : Settings) : Option Text := s.corpus.map s.resolve

/-- How programs are verified. -/
def verify (s : Settings) : VerifySettings :=
  let base : VerifySettings := { toolchain := s.toolchain }
  { base with
    compileTimeoutMs := s.compileTimeoutMs.getD base.compileTimeoutMs
    runTimeoutMs := s.runTimeoutMs.getD base.runTimeoutMs
    workspaceRoot := s.workspaceRoot.map s.resolve }

/-- The names of the additional passes. -/
def extraNames (s : Settings) : List String := s.extraPasses.map String.ofList

/-- The pipeline: the canonical passes and the additional ones, as far as they exist. -/
def pipeline (s : Settings) : Pipeline :=
  Pipeline.canonical ++ s.extraNames.filterMap Pass.named?

/-- The first fault of the settings. -/
def invalid? (s : Settings) : Option Invalid :=
  if !s.toolchain.mentionsOutput then some .missingOutputPlaceholder
  else
    match s.minSimilarity.filter fun x => !(0 ≤ x && x ≤ 1) with
    | some x => some (.similarityOutOfRange x)
    | none =>
      (s.extraPasses.find? fun n => (Pass.named? (String.ofList n)).isNone).map .unknownPass

end Settings

end Retouch
