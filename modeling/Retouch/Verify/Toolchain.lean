/-
  Toolchains: a program and a template of its arguments, in which two placeholders stand for the
  source file and the file to be built.
-/
import Retouch.Pattern.Scan

namespace Retouch

/-- A program that builds, and the template of its arguments. -/
structure Toolchain where
  program : Text
  args : List Text
deriving Repr, DecidableEq

namespace Toolchain

/-- Stands for the source file. -/
def sourcePlaceholder : Text := "\x7bsource\x7d".toList

/-- Stands for the file to be built. -/
def outputPlaceholder : Text := "\x7boutput\x7d".toList

/-- The usual template. -/
def defaultArgs : List Text := [sourcePlaceholder, "-o".toList, outputPlaceholder]

/-- The compiler for the larger language, which is the default. -/
def gxx : Toolchain := ⟨"g++".toList, defaultArgs⟩

/-- The compiler for the smaller language. -/
def gcc : Toolchain := ⟨"gcc".toList, defaultArgs⟩

/-- Whether some argument mentions the file to be built. -/
def mentionsOutput (t : Toolchain) : Bool := t.args.any (Text.hasPart outputPlaceholder)

/-- An argument with the source put in first, and then the file to be built. -/
def expand (source output arg : Text) : Text :=
  Text.replaceAll outputPlaceholder output (Text.replaceAll sourcePlaceholder source arg)

/-- The arguments for a source and a file to be built. -/
def arguments (t : Toolchain) (source output : Text) : List Text := t.args.map (expand source output)

end Toolchain

end Retouch
