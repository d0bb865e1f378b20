/-
  Sequences of bytes written as texts: each byte is the character with its value, below 256.  Files
  and the streams of programs hold such texts, which need not be well-formed as UTF-8.
-/
import Retouch.Text.Bytes

namespace Retouch

/-- A sequence of bytes, each as the character with its value. -/
abbrev Octets := List Char

namespace Octets

/-- The octets of some bytes. -/
def ofBytes (bytes : List UInt8) : Octets := bytes.map fun b => Char.ofNat b.toNat

/-- The bytes that the octets stand for. -/
def toBytes (o : Octets) : List UInt8 := o.map fun c => c.toNat.toUInt8

/-- The octets of a text in UTF-8. -/
def ofText (t : Text) : Octets := ofBytes t.toBytes

/-- The octets of a string in UTF-8. -/
def ofString (s : String) : Octets := ofText s.toList

/-- The text that the octets encode, with a replacement for each malformed part. -/
def toText (o : Octets) : Text := Text.ofBytesLossy (toBytes o)

/-- The text that the octets encode, if they are well-formed. -/
def toText? (o : Octets) : Option Text := Text.ofBytes? (toBytes o)

end Octets

end Retouch
