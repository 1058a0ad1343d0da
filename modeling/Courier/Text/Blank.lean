import Courier.Text.CodePoint

/-!
Classes of blanks and digits.

Four parts of the program leave out blanks, each with a set of its own: a JSON text knows four,
a request head has those below U+0100, names and integers have all of Unicode's, and numerals in the
settings have those without the four separators U+001C to U+001F.
-/

namespace Courier

namespace CodePoint

/-- The blanks between the tokens of a JSON text. -/
def isJsonBlank (c : CodePoint) : Bool :=
  c.toNat = 0x20 || c.toNat = 0x0A || c.toNat = 0x0D || c.toNat = 0x09

/-- The blanks of Unicode that lie above U+00FF. -/
def wideBlanks : List (Nat × Nat) :=
  [(0x1680, 0x1680), (0x2000, 0x200A), (0x2028, 0x2029), (0x202F, 0x202F), (0x205F, 0x205F),
    (0x3000, 0x3000)]

/-- A blank, in all of Unicode: space, the line and page breaks, the four separators
U+001C to U+001F, the no-break spaces and the typographic spaces. -/
def isBlank (c : CodePoint) : Bool :=
  let n := c.toNat
  (0x09 ≤ n && n ≤ 0x0D) || (0x1C ≤ n && n ≤ 0x20) || n = 0x85 || n = 0xA0 ||
    c.isIn wideBlanks

/-- A code point with the property White_Space: every blank but the four separators. -/
def isWhiteSpace (c : CodePoint) : Bool := c.isBlank && !(0x1C ≤ c.toNat && c.toNat ≤ 0x1F)

/-- The zeros of Unicode's decimal digits; the nine digits after each follow it in order. -/
def zeros : List Nat := [
  0x30, 0x660, 0x6F0, 0x7C0, 0x966, 0x9E6, 0xA66, 0xAE6, 0xB66, 0xBE6, 0xC66, 0xCE6, 0xD66,
  0xDE6, 0xE50, 0xED0, 0xF20, 0x1040, 0x1090, 0x17E0, 0x1810, 0x1946, 0x19D0, 0x1A80, 0x1A90,
  0x1B50, 0x1BB0, 0x1C40, 0x1C50, 0xA620, 0xA8D0, 0xA900, 0xA9D0, 0xA9F0, 0xAA50, 0xABF0, 0xFF10,
  0x104A0, 0x10D30, 0x11066, 0x110F0, 0x11136, 0x111D0, 0x112F0, 0x11450, 0x114D0, 0x11650,
  0x116C0, 0x11730, 0x118E0, 0x11950, 0x11C50, 0x11D50, 0x11DA0, 0x16A60, 0x16AC0, 0x16B50,
  0x1D7CE, 0x1D7D8, 0x1D7E2, 0x1D7EC, 0x1D7F6, 0x1E140, 0x1E2F0, 0x1E950, 0x1FBF0]

/-- The value of a decimal digit of any script. -/
def digitValue? (c : CodePoint) : Option Nat :=
  (zeros.find? fun first => first ≤ c.toNat && c.toNat < first + 10).map (c.toNat - ·)

end CodePoint

end Courier
