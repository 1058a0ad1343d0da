import Courier.Json.Reader
import Courier.Text.Utf8
import Courier.Text.Utf16

/-!
JSON texts as bytes.

A byte sequence tells its encoding: by a byte order mark, or else by where its first four bytes
are zero, since a JSON text starts with an ASCII character.
-/

namespace Courier

/-- The encodings of a JSON text. -/
inductive Encoding
  | utf8
  | utf16 (order : ByteOrder)
  | utf32 (order : ByteOrder)
deriving DecidableEq

namespace Encoding

/-- The encoding of a byte sequence without a byte order mark. -/
def ofZeros : List UInt8 → Encoding
  | [a, b] =>
    if a = 0 then .utf16 .bigFirst else if b = 0 then .utf16 .littleFirst else .utf8
  | a :: b :: c :: d :: _ =>
    if a = 0 then (if b = 0 then .utf32 .bigFirst else .utf16 .bigFirst)
    else if b = 0 then
      (if c = 0 ∧ d = 0 then .utf32 .littleFirst else .utf16 .littleFirst)
    else .utf8
  | _ => .utf8

/-- The encoding of a byte sequence, and the bytes after its byte order mark. -/
def detect (bytes : List UInt8) : Encoding × List UInt8 :=
  match bytes with
  | 0x00 :: 0x00 :: 0xFE :: 0xFF :: rest => (.utf32 .bigFirst, rest)
  | 0xFF :: 0xFE :: 0x00 :: 0x00 :: rest => (.utf32 .littleFirst, rest)
  | 0xFE :: 0xFF :: rest => (.utf16 .bigFirst, rest)
  | 0xFF :: 0xFE :: rest => (.utf16 .littleFirst, rest)
  | 0xEF :: 0xBB :: 0xBF :: rest => (.utf8, rest)
  | _ => (ofZeros bytes, bytes)

/-- The text of a byte sequence in an encoding, surrogates let through. -/
def decode? (bytes : List UInt8) : Encoding → Option Text
  | .utf8 => Utf8.decode? .passed bytes
  | .utf16 order => Utf16.decode? order bytes
  | .utf32 order => Utf32.decode? order bytes

end Encoding

namespace Json

/-- The value of a JSON text in any of the encodings. -/
def ofBytes? (bytes : List UInt8) : Option Json :=
  let (encoding, rest) := Encoding.detect bytes
  (encoding.decode? rest).bind (read? .lenient)

end Json

end Courier
