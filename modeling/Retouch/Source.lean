/-
  Program texts with their language.

  A source is never changed: passes give a new text in the same language (`withText`).  Its
  fingerprint is a digest of the text alone.
-/
import Retouch.Digest.Blake3
import Retouch.Text.Bytes
import Retouch.Text.Quoted

namespace Retouch

/-- The language of a program text.  It decides the extension of source files and nothing else. -/
inductive Language where
  | cpp
  | c
deriving Repr, DecidableEq, Inhabited

namespace Language

/-- The extension of source files in the language, which is also its short name. -/
def extension : Language → String
  | cpp => "cpp"
  | c => "c"

/-- The name of the language. -/
def name : Language → String
  | cpp => "Cpp"
  | c => "C"

/-- The language with a given tag; blanks around it and the case of its letters do not count. -/
def ofTag? (tag : Text) : Option Language :=
  match String.ofList (Text.toAsciiLower (Text.trim tag)) with
  | "cpp" | "c++" | "cxx" | "cc" => some cpp
  | "c" => some c
  | _ => none

end Language

/-- A program text in a language. -/
structure Source where
  text : Text
  language : Language := .cpp
deriving Repr, DecidableEq

namespace Source

/-- Another text in the same language. -/
def withText (s : Source) (t : Text) : Source := { s with text := t }

/-- The digest of a text. -/
def fingerprintOf (t : Text) : Text := Blake3.hexDigest t.toBytes

/-- The digest of the program text. -/
def fingerprint (s : Source) : Text := fingerprintOf s.text

/-- The first twelve digits of the fingerprint. -/
def shortFingerprint (s : Source) : Text := s.fingerprint.take 12

/-- A one-line description: language, size in bytes and quoted text. -/
def describe (s : Source) : Text :=
  "SourceText \x7b language: ".toList ++ s.language.name.toList ++ ", len: ".toList ++
    Text.ofNat s.text.byteSize ++ ", text: ".toList ++ s.text.quoted ++ " \x7d".toList

end Source

end Retouch
