/-
  Edit scripts over lines.

  A script is a list of edits, each about one line with its terminator: keep it, drop it, or add it.
  `replay?` runs a script against a text and fails unless the lines that the script keeps and drops
  are the lines of the text.  `dropsFirst` moves, within each run of changes, the drops ahead of the
  additions, and changes nothing else.
-/
import Retouch.Text.Basic

namespace Retouch

/-- One edit of a line. -/
inductive Edit where
  | keep (line : Text)
  | drop (line : Text)
  | add (line : Text)
deriving Repr, DecidableEq

namespace Edit

/-- The line that the edit is about. -/
def line : Edit → Text
  | keep l | drop l | add l => l

/-- Whether the edit changes the text. -/
def isChange : Edit → Bool
  | keep _ => false
  | drop _ | add _ => true

/-- Whether the edit drops a line. -/
def isDrop : Edit → Bool
  | drop _ => true
  | keep _ | add _ => false

/-- Whether the edit adds a line. -/
def isAdd : Edit → Bool
  | add _ => true
  | keep _ | drop _ => false

end Edit

/-- A list of edits, from the first line to the last. -/
abbrev Script := List Edit

namespace Script

/-- Whether the script keeps every line. -/
def isUnchanged (s : Script) : Bool := !s.any Edit.isChange

/-- The number of lines that the script adds. -/
def insertions (s : Script) : Nat := s.countP Edit.isAdd

/-- The number of lines that the script drops. -/
def deletions (s : Script) : Nat := s.countP Edit.isDrop

/-- The lines after the script has run on `lines`, if it keeps and drops exactly these lines. -/
def replayLines? : Script → (lines : List Text) → Option (List Text)
  | [], [] => some []
  | [], _ :: _ => none
  | .add l :: s, lines => (replayLines? s lines).map (l :: ·)
  | .keep _ :: _, [] => none
  | .keep l :: s, m :: lines => if l = m then (replayLines? s lines).map (l :: ·) else none
  | .drop _ :: _, [] => none
  | .drop l :: s, m :: lines => if l = m then replayLines? s lines else none

/-- The text after the script has run on `t`, if it is a script for `t`. -/
def replay? (s : Script) (t : Text) : Option Text := (s.replayLines? t.lines).map List.flatten

/-- Puts an edit before a script, an addition behind the drops at its front. -/
def place : Edit → Script → Script
  | .add l, .drop m :: s => .drop m :: place (.add l) s
  | e, s => e :: s

/-- The script with the drops ahead of the additions in each run of changes. -/
def dropsFirst (s : Script) : Script := s.foldr place []

end Script

end Retouch
