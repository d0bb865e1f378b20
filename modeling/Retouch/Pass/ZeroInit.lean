/-
  Removal of unused variables: a declaration `T x = 0;` or `T x = 0.0;` goes if the identifier `x`
  occurs nowhere else in the text.

  A declaration may start by modifiers such as `unsigned long`.  As `long` and `short` are both
  modifiers and types, the longest sequence of modifiers after which the declaration goes on is
  taken (`declaration?`).
-/
import Retouch.Pass.Basic

namespace Retouch.Pass

/-- A modifier of a type. -/
def modifierPattern : Pattern :=
  [.oneOf ["unsigned".toList, "signed".toList, "long".toList, "short".toList], .blanks1]

/-- A type, a name and a zero. -/
def zeroPattern : Pattern :=
  [.oneOf ["int".toList, "float".toList, "double".toList, "char".toList, "bool".toList,
      "long".toList, "short".toList],
    .blanks1, .name, .blanks, .lit "=", .blanks, .lit "0", .maybe ".0".toList, .blanks, .lit ";"]

/-- A declaration by zero, as the text of its modifiers and the match of the rest. -/
def declaration? (t : Text) : Option (Text × Match) :=
  match modifierPattern.read? none t with
  | none => (zeroPattern.read? none t).map ([], ·)
  | some m =>
    if m.rest.length < t.length then
      match declaration? m.rest with
      | some (modifiers, d) => some (m.text ++ modifiers, d)
      | none => (zeroPattern.read? none t).map ([], ·)
    else none
termination_by t.length

/-- Declarations by zero at the start of a word.  The pieces of a match are the modifiers and those
    of `zeroPattern`. -/
def zeroInit : Matcher := fun before t =>
  match Piece.take? before t .edge with
  | none => none
  | some _ => (declaration? t).map fun (modifiers, d) => ⟨modifiers :: d.pieces, d.rest⟩

/-- The name that a declaration by zero declares. -/
def declaredName (m : Match) : Text := m.piece 3

/-- An identifier. -/
def identifierPattern : Pattern := [.edge, .name, .edge]

/-- The identifiers that occur in a text, in order. -/
def identifiers (t : Text) : List Text := (Matcher.findAll identifierPattern.read? t).map Match.text

/-- Drops the declarations by zero of names that do not occur again in the text. -/
def dropUnused (t : Text) : Text :=
  let names := identifiers t
  zeroInit.replaceAll (fun m => if 1 < names.count (declaredName m) then m.text else []) t

/-- Removal of unused variables. -/
def dropZeroInit : Pass := ⟨"drop-zero-init", dropUnused⟩

end Retouch.Pass
