import Courier.Text.CodePoint

/-!
The Latin-1 form of texts: each byte is the code point of the same number.
-/

namespace Courier

namespace Latin1

/-- The text of a byte sequence. Every byte sequence has one. -/
def decode (bytes : List UInt8) : Text := bytes.map CodePoint.ofByte

/-- The bytes of a text whose code points are all below U+0100. -/
def encode? (t : Text) : Option (List UInt8) :=
  if t.all (·.toNat < 0x100) then some (t.map fun c => UInt8.ofNat c.toNat) else none

end Latin1

namespace Ascii

/-- The text of a byte sequence in which every byte outside ASCII becomes U+FFFD. -/
def decode (bytes : List UInt8) : Text :=
  bytes.map fun b => if b.toNat < 0x80 then CodePoint.ofByte b else CodePoint.replacement

/-- The bytes of an ASCII text. -/
def encode? (t : Text) : Option (List UInt8) :=
  if t.all CodePoint.isAscii then some (t.map fun c => UInt8.ofNat c.toNat) else none

end Ascii

end Courier
