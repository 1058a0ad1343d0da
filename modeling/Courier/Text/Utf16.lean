import Courier.Text.CodePoint

/-!
The 16-bit and 32-bit forms of texts.

Only decoding is needed. Surrogates that do not form a pair are kept as they are, so a byte
sequence is malformed only when its last unit is incomplete or names no code point.
-/

namespace Courier

/-- The order of the bytes inside a unit. -/
inductive ByteOrder
  | bigFirst
  | littleFirst
deriving DecidableEq

namespace ByteOrder

/-- The number that two bytes denote. -/
def word (order : ByteOrder) (a b : UInt8) : Nat :=
  match order with
  | .bigFirst => 0x100 * a.toNat + b.toNat
  | .littleFirst => 0x100 * b.toNat + a.toNat

/-- The number that four bytes denote. -/
def doubleWord (order : ByteOrder) (a b c d : UInt8) : Nat :=
  match order with
  | .bigFirst => 0x10000 * order.word a b + order.word c d
  | .littleFirst => 0x10000 * order.word c d + order.word a b

end ByteOrder

namespace Utf16

/-- Appends a unit to the code points decoded so far (latest first): a low surrogate joins a
high one before it. -/
def push (found : Text) (unit : CodePoint) : Text :=
  match found with
  | high :: before =>
    if high.isHighSurrogate && unit.isLowSurrogate then CodePoint.ofPair high unit :: before
    else unit :: found
  | [] => [unit]

/-- The text after the code points decoded so far (latest first). -/
def scan? (order : ByteOrder) (found : Text) : List UInt8 → Option Text
  | [] => some found.reverse
  | [_] => none
  | a :: b :: bytes => scan? order (push found (CodePoint.ofNat (order.word a b))) bytes

/-- The text of a sequence of 16-bit units. -/
def decode? (order : ByteOrder) (bytes : List UInt8) : Option Text := scan? order [] bytes

end Utf16

namespace Utf32

/-- The text after the code points decoded so far (latest first). -/
def scan? (order : ByteOrder) (found : Text) : List UInt8 → Option Text
  | [] => some found.reverse
  | a :: b :: c :: d :: bytes =>
    if h : order.doubleWord a b c d < 0x110000 then scan? order (⟨_, h⟩ :: found) bytes else none
  | _ => none

/-- The text of a sequence of 32-bit units. -/
def decode? (order : ByteOrder) (bytes : List UInt8) : Option Text := scan? order [] bytes

end Utf32

end Courier
