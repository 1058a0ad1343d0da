import Courier.Text.Latin1
import Courier.Text.Utf8

/-!
Character sets.

A byte sequence is a text in a character set, which is known by several names. Names are compared
without regard to the case of letters and to the marks between their words.
-/

namespace Courier

/-- The character sets of texts. -/
inductive Charset
  | utf8
  | latin1
  | ascii
deriving DecidableEq

namespace Charset

/-- The proper names of the character sets. -/
def names : List (String × Charset) := [("utf_8", .utf8), ("latin_1", .latin1), ("ascii", .ascii)]

/-- Other names of them, in which a point may also be an underscore. -/
def aliases : List (String × Charset) := [
  ("utf8", .utf8), ("u8", .utf8), ("utf", .utf8), ("utf8_ucs2", .utf8), ("utf8_ucs4", .utf8),
  ("cp65001", .utf8),
  ("iso_8859_1", .latin1), ("iso8859_1", .latin1), ("iso8859", .latin1), ("8859", .latin1),
  ("latin1", .latin1), ("latin", .latin1), ("l1", .latin1), ("cp819", .latin1),
  ("ibm819", .latin1), ("iso_ir_100", .latin1), ("iso_8859_1_1987", .latin1),
  ("csisolatin1", .latin1),
  ("us_ascii", .ascii), ("us", .ascii), ("646", .ascii), ("iso646_us", .ascii),
  ("iso_646.irv_1991", .ascii), ("iso_ir_6", .ascii), ("cp367", .ascii), ("ibm367", .ascii),
  ("csascii", .ascii), ("ansi_x3.4_1968", .ascii), ("ansi_x3_4_1968", .ascii),
  ("ansi_x3.4_1986", .ascii)]

/-- The name in small letters, with one underscore for every run of marks between its words, in
which points count as letters. -/
def normalize (name : Text) : Text :=
  let inName := fun (c : CodePoint) => c.isLetter || c.isDigit || c = '.'
  Text.join [CodePoint.ofChar '_'] ((Text.words (!inName ·) name).map
    (·.map CodePoint.lowerAscii))

/-- The character set of a name in a list. -/
def find? (names : List (String × Charset)) (name : Text) : Option Charset :=
  (names.find? fun entry => Text.ofString entry.1 = name).map (·.2)

/-- The character set of a name. -/
def ofName? (name : Text) : Option Charset :=
  let name := normalize name
  let withoutPoints := name.map fun (c : CodePoint) =>
    if c = '.' then CodePoint.ofChar '_' else c
  ((find? aliases name).or (find? aliases withoutPoints)).or (find? names name)

/-- The text of a byte sequence; what is malformed becomes U+FFFD. -/
def decode (bytes : List UInt8) : Charset → Text
  | .utf8 => Utf8.decode bytes
  | .latin1 => Latin1.decode bytes
  | .ascii => Ascii.decode bytes

/-- The text of a byte sequence that is well-formed. -/
def decode? (bytes : List UInt8) : Charset → Option Text
  | .utf8 => Utf8.decode? .refused bytes
  | .latin1 => some (Latin1.decode bytes)
  | .ascii => if bytes.all (· < 0x80) then some (Ascii.decode bytes) else none

end Charset

end Courier
