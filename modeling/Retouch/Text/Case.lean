/-
  Lower case.

  Every character has its own lower-case form, except that a capital sigma depends on the letters
  around it: it becomes a final sigma after a letter and not before one, where characters that case
  rules look past do not count.
-/
import Retouch.Text.Basic
import Retouch.Text.CaseTable

namespace Retouch.Text

/-- Characters that have case. -/
def isCased (c : Char) : Bool :=
  if c.toNat < 0x80 then c.isAlpha else casedRanges.contains c.toNat

/-- Characters that case rules look past. -/
def isCaseIgnorable (c : Char) : Bool :=
  if c.toNat < 0x80 then c == '\'' || c == '.' || c == ':' || c == '^' || c.toNat == 0x60
  else caseIgnorableRanges.contains c.toNat

/-- Whether a letter comes first, after characters that case rules look past. -/
def startsCased (t : Text) : Bool := (t.dropWhile isCaseIgnorable).head?.any isCased

/-- The lower-case form of a character by itself. -/
def lowerChar (c : Char) : Text :=
  let n := c.toNat
  if n < 0x80 then [c.toLower]
  else if n = 0x130 then ['i', Char.ofNat 0x307]
  else
    match lowerRuns.find? fun (first, last, stride, _) =>
        first ≤ n && n ≤ last && (n - first) % stride == 0 with
    | some (_, _, _, shift) => [Char.ofNat ((n : Int) + shift).toNat]
    | none => [c]

/-- The capital sigma. -/
def capitalSigma : Char := Char.ofNat 0x3A3

/-- The lower-case form of `t`; `before` is what stands before it, in reverse. -/
def lowerFrom : (before : Text) → Text → Text
  | _, [] => []
  | before, c :: t =>
    let low :=
      if c = capitalSigma then
        if startsCased before && !startsCased t then [Char.ofNat 0x3C2] else [Char.ofNat 0x3C3]
      else lowerChar c
    low ++ lowerFrom (c :: before) t

/-- The lower-case form of a text. -/
def lower (t : Text) : Text := lowerFrom [] t

end Retouch.Text
