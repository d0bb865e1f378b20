/-
  Texts as lists of characters, and the ways a text is cut up.

  * `isBlank` is the white space of Unicode; `trim` drops it from both ends;
  * `lines` cuts a text after each newline, so that its lines concatenate to the text
    (`flatten_lines`); `bareLines` gives the lines without their terminators;
  * `byteSize` is the number of bytes of a text in UTF-8.
-/

namespace Retouch

/-- A text is the list of its characters. -/
abbrev Text := List Char

namespace Text

/-! ## Characters -/

/-- White space. -/
def isBlank (c : Char) : Bool :=
  let n := c.toNat
  (0x09 ≤ n && n ≤ 0x0D) || n == 0x20 || n == 0x85 || n == 0xA0 || n == 0x1680 ||
    (0x2000 ≤ n && n ≤ 0x200A) || n == 0x2028 || n == 0x2029 || n == 0x202F || n == 0x205F ||
    n == 0x3000

/-- A space or a tab. -/
def isPadding (c : Char) : Bool := c == ' ' || c == '\t'

/-- The letters and the underscore that may open an identifier. -/
def isNameStart (c : Char) : Bool := c.isAlpha || c == '_'

/-- The value of a text of ASCII digits. -/
def digitsValue (t : Text) : Nat :=
  t.foldl (fun n c => 10 * n + (c.toNat - '0'.toNat)) 0

/-- The value of a non-empty text of ASCII digits that is below `bound`. -/
def natBelow? (bound : Nat) (t : Text) : Option Nat :=
  if !t.isEmpty && t.all Char.isDigit && digitsValue t < bound then some (digitsValue t) else none

/-- The decimal digits of `n`, most significant first. -/
def ofNat (n : Nat) : Text := Nat.toDigits 10 n

/-! ## Ends -/

/-- The text without its longest end of characters that satisfy `p`. -/
def dropEndWhile (p : Char → Bool) (t : Text) : Text :=
  (t.reverse.dropWhile p).reverse

/-- The text without the white space at its start. -/
def trimStart (t : Text) : Text := t.dropWhile isBlank

/-- The text without the white space at its end. -/
def trimEnd (t : Text) : Text := dropEndWhile isBlank t

/-- The text without the white space at its two ends. -/
def trim (t : Text) : Text := trimEnd (trimStart t)

/-- The text without `w` at its end, if it ends so. -/
def dropSuffix? (w t : Text) : Option Text :=
  if w.isSuffixOf t then some (t.take (t.length - w.length)) else none

/-- ASCII letters in lower case, all else as it is. -/
def toAsciiLower (t : Text) : Text := t.map Char.toLower

/-! ## Lines -/

/-- The lines of a text, each with its terminating newline; the last one may lack it.  The empty
    text has no lines. -/
def lines : Text → List Text
  | [] => []
  | c :: t =>
    if c = '\n' then [c] :: lines t
    else match lines t with
      | [] => [[c]]
      | l :: ls => (c :: l) :: ls

/-- The lines of a text concatenate to it. -/
@[simp]
theorem flatten_lines (t : Text) : (lines t).flatten = t := by
  induction t with
  | nil => rfl
  | cons c t ih =>
    rw [lines]
    split
    · simp [ih]
    · split
      · next h => rw [h] at ih; simp at ih; simp [← ih]
      · next h => rw [h] at ih; simp at ih; simp [ih]

/-- A line without its newline, and without a carriage return right before that newline. -/
def dropTerminator (line : Text) : Text :=
  match dropSuffix? ['\n'] line with
  | none => line
  | some body => (dropSuffix? ['\r'] body).getD body

/-- The lines of a text without their terminators. -/
def bareLines (t : Text) : List Text := (lines t).map dropTerminator

/-- Whether a text does not come after another one in the order of characters. -/
def upTo (a b : Text) : Bool := !decide (b < a)

/-- The number of bytes of a text in UTF-8. -/
def byteSize (t : Text) : Nat := t.foldr (fun c n => c.utf8Size + n) 0

end Text

end Retouch
