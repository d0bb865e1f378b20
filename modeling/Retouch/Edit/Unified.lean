/-
  The unified rendering of a script: hunks of changes with some kept lines around them.

  `hunks?` groups the changes of a script into ranges of edits, each change with `context` edits on
  either side; ranges that touch or overlap become one.  Positions are words of 64 bits, and there are
  no hunks if the end of a range does not fit in one, even if the script ends before it.
  `unified?` writes two header lines and then, for each hunk, the ranges of lines that it covers
  before and after and its edits, one to a line.  A script without changes renders as nothing.
-/
import Retouch.Edit.Script

namespace Retouch

/-- A range `start ≤ i < stop` of the edits of a script. -/
structure Hunk where
  start : Nat
  stop : Nat
deriving Repr, DecidableEq

/-- Positions are below this number. -/
def wordSize : Nat := Nat.pow 2 64

namespace Hunk

/-- The edit at `i` with `context` edits on either side, within a script of `size` edits. -/
def around (size context i : Nat) : Hunk := ⟨i - context, min (i + 1 + context) size⟩

/-- The edit at `i` with its context, or nothing if the position behind it overflows. -/
def around? (size context i : Nat) : Option Hunk :=
  if i + 1 + context < wordSize then some (around size context i) else none

/-- Adds a hunk after the others, which are in reverse order; it extends the one before it if the
    two touch. -/
def join : List Hunk → Hunk → List Hunk
  | last :: others, h =>
    if h.start ≤ last.stop then ⟨last.start, h.stop⟩ :: others else h :: last :: others
  | [], h => [h]

end Hunk

namespace Script

/-- The positions of the changes in a script. -/
def changes (s : Script) : List Nat :=
  (s.zipIdx.filter (·.1.isChange)).map (·.2)

/-- The hunks of a script, in order; nothing if a position overflows. -/
def hunks? (s : Script) (context : Nat) : Option (List Hunk) :=
  (s.changes.mapM (Hunk.around? s.length context)).map fun ranges =>
    (ranges.foldl Hunk.join []).reverse

/-- The number of lines before the script has run: all that it keeps or drops. -/
def oldLength (s : Script) : Nat := s.countP (!·.isAdd)

/-- The number of lines after the script has run: all that it keeps or adds. -/
def newLength (s : Script) : Nat := s.countP (!·.isDrop)

/-- A range of lines: its first line and its length; the length is left out if it is one, and the
    line before stands for the first line of an empty range. -/
def rangeText (start length : Nat) : Text :=
  match length with
  | 0 => Text.ofNat start ++ ",0".toList
  | 1 => Text.ofNat (start + 1)
  | _ => Text.ofNat (start + 1) ++ [','] ++ Text.ofNat length

/-- The mark in front of an edit. -/
def mark : Edit → Char
  | .keep _ => ' '
  | .drop _ => '-'
  | .add _ => '+'

/-- An edit as a line: its mark, its line, and a newline if the line has none. -/
def editText (e : Edit) : Text :=
  mark e :: e.line ++ if e.line.getLast? = some '\n' then [] else ['\n']

/-- A hunk: its two ranges, then its edits. -/
def hunkText (s : Script) (h : Hunk) : Text :=
  let before : Script := s.take h.start
  let body : Script := (s.take h.stop).drop h.start
  "@@ -".toList ++ rangeText before.oldLength body.oldLength ++ " +".toList ++
    rangeText before.newLength body.newLength ++ " @@\n".toList ++ body.flatMap editText

/-- The rendering of the hunks `hs` of a script under a label. -/
def unifiedWith (s : Script) (label : Text) (hs : List Hunk) : Text :=
  "--- Before ".toList ++ label ++ ['\n'] ++ ("+++ After ".toList ++ label ++ ['\n']) ++
    hs.flatMap s.hunkText

/-- The unified rendering of a script under a label; nothing if a position overflows. -/
def unified? (s : Script) (label : Text) (context : Nat) : Option Text :=
  if s.isUnchanged then some [] else (s.hunks? context).map (s.unifiedWith label)

end Script

end Retouch
