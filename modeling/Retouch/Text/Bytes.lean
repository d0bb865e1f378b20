/-
  Texts as bytes in UTF-8.

  `toBytes` encodes a text.  `decode` reads bytes as a sequence of characters and malformed parts,
  where a malformed part is the longest front of a well-formed character, or else one byte.
  `ofBytes?` refuses malformed parts; `ofBytesLossy` writes U+FFFD for each, so that different byte
  sequences may give one text.
-/
import Retouch.Text.Basic

namespace Retouch.Text

/-- The bytes of a text in UTF-8. -/
def toBytes (t : Text) : List UInt8 := t.flatMap String.utf8EncodeChar

/-- What a first byte announces: how many bytes follow, and the least and the greatest value of the
    first of them. -/
def following? (b : UInt8) : Option (Nat × UInt8 × UInt8) :=
  if b < 0x80 then some (0, 0x80, 0xBF)
  else if b < 0xC2 then none
  else if b < 0xE0 then some (1, 0x80, 0xBF)
  else if b = 0xE0 then some (2, 0xA0, 0xBF)
  else if b = 0xED then some (2, 0x80, 0x9F)
  else if b < 0xF0 then some (2, 0x80, 0xBF)
  else if b = 0xF0 then some (3, 0x90, 0xBF)
  else if b < 0xF4 then some (3, 0x80, 0xBF)
  else if b = 0xF4 then some (3, 0x80, 0x8F)
  else none

/-- The bytes at the front of a sequence that can follow, at most `n`; the first lies between `lo`
    and `hi`. -/
def followers : (n : Nat) → (lo hi : UInt8) → List UInt8 → List UInt8
  | n + 1, lo, hi, b :: r => if lo ≤ b ∧ b ≤ hi then b :: followers n 0x80 0xBF r else []
  | _, _, _, _ => []

/-- The character with a given first byte, followed by the bytes `more`. -/
def assemble (b : UInt8) (more : List UInt8) : Char :=
  let front := match more.length with
    | 0 => b.toNat
    | 1 => b.toNat % 0x20
    | 2 => b.toNat % 0x10
    | _ => b.toNat % 0x08
  Char.ofNat (more.foldl (fun n m => n * 0x40 + m.toNat % 0x40) front)

/-- The characters of a sequence of bytes; `none` stands for a malformed part. -/
def decode (bytes : List UInt8) : List (Option Char) :=
  match bytes with
  | [] => []
  | b :: r =>
    match following? b with
    | none => none :: decode r
    | some (n, lo, hi) =>
      let more := followers n lo hi r
      (if more.length = n then some (assemble b more) else none) :: decode (r.drop more.length)
termination_by bytes.length
decreasing_by
  · simp
  · simp only [List.length_drop, List.length_cons]; omega

/-- The text of a sequence of bytes, if it is well-formed. -/
def ofBytes? (bytes : List UInt8) : Option Text := (decode bytes).mapM id

/-- The character that stands for a malformed part. -/
def replacement : Char := Char.ofNat 0xFFFD

/-- The text of a sequence of bytes, with a replacement for each malformed part. -/
def ofBytesLossy (bytes : List UInt8) : Text := (decode bytes).map (·.getD replacement)

/-- Whether a text starts by a byte order mark, and the text without it. -/
def dropByteOrderMark : Text → Text
  | c :: t => if c.toNat = 0xFEFF then t else c :: t
  | [] => []

end Retouch.Text
