import Courier.Json.Value
import Courier.Number.Numeral

/-!
Writing JSON texts.

All layouts are one writer with different styles: what stands between items, between a key and its
value, and how far nested lines are indented. A style also says whether code points outside
printable ASCII are escaped or written as they are.
-/

namespace Courier

namespace Json

/-- How a value is laid out. -/
structure Style where
  /-- Whether code points other than U+0020 to U+007E are escaped. -/
  ascii : Bool
  /-- What follows an item that is not the last one, on the same line. -/
  comma : String
  /-- What stands between a key and its value. -/
  colon : String
  /-- The further indentation of each level, when items have lines of their own. -/
  indent : Option Nat

/-- No blanks, and code points as they are. -/
def compact : Style := { ascii := false, comma := ",", colon := ":", indent := none }

/-- No blanks, in ASCII. -/
def compactAscii : Style := { compact with ascii := true }

/-- A space after commas and colons, in ASCII. -/
def spacedAscii : Style := { ascii := true, comma := ", ", colon := ": ", indent := none }

/-- A space after commas and colons, and code points as they are. -/
def spaced : Style := { spacedAscii with ascii := false }

/-- Each item on a line of its own, indented by two spaces a level, and code points as they
are. -/
def indented : Style := { ascii := false, comma := ",", colon := ": ", indent := some 2 }

/-- The escape of a 16-bit unit. -/
def unitEscape (unit : CodePoint) : Text := Text.ofString "\\u" ++ Text.hex 4 unit.toNat

/-- A code point inside a string. -/
def writeCodePoint (style : Style) (c : CodePoint) : Text :=
  if c = '"' then Text.ofString "\\\""
  else if c = '\\' then Text.ofString "\\\\"
  else if c.toNat = 0x08 then Text.ofString "\\b"
  else if c.toNat = 0x09 then Text.ofString "\\t"
  else if c.toNat = 0x0A then Text.ofString "\\n"
  else if c.toNat = 0x0C then Text.ofString "\\f"
  else if c.toNat = 0x0D then Text.ofString "\\r"
  else if c.toNat < 0x20 then unitEscape c
  else if style.ascii && 0x7F ≤ c.toNat then
    if c.toNat < 0x10000 then unitEscape c
    else unitEscape c.toPair.1 ++ unitEscape c.toPair.2
  else [c]

/-- A string between quotes. -/
def writeString (style : Style) (s : Text) : Text :=
  CodePoint.ofChar '"' :: s.flatMap (writeCodePoint style) ++ [CodePoint.ofChar '"']

/-- The line break before an item at a level, in a style that has them. -/
def Style.lineBreak (style : Style) (level : Nat) : Text :=
  match style.indent with
  | none => []
  | some width => CodePoint.ofChar '\n' :: List.replicate (width * level) (CodePoint.ofChar ' ')

/-- Written items between brackets, at a level. -/
def bracket (style : Style) (level : Nat) (opening closing : CodePoint) (items : List Text) :
    Text :=
  match items with
  | [] => [opening, closing]
  | items =>
    let separator := Text.ofString style.comma ++ style.lineBreak (level + 1)
    opening :: style.lineBreak (level + 1) ++ Text.join separator items ++
      style.lineBreak level ++ [closing]

mutual

/-- A value at a level of nesting. -/
def writeAt (style : Style) (level : Nat) : Json → Text
  | .null => Text.ofString "null"
  | .bool b => if b then Text.ofString "true" else Text.ofString "false"
  | .int n => Text.ofInt n
  | .float x => x.write Binary64.jsonWords
  | .string s => writeString style s
  | .array items => bracket style level '[' ']' (writeItems style (level + 1) items)
  | .object members => bracket style level '\x7b' '\x7d' (writeMembers style (level + 1) members)

/-- The items of an array at a level of nesting. -/
def writeItems (style : Style) (level : Nat) : List Json → List Text
  | [] => []
  | v :: items => writeAt style level v :: writeItems style level items

/-- The members of an object at a level of nesting. -/
def writeMembers (style : Style) (level : Nat) : List (Text × Json) → List Text
  | [] => []
  | (key, v) :: members =>
    (writeString style key ++ Text.ofString style.colon ++ writeAt style level v) ::
      writeMembers style level members

end

/-- The text of a value. -/
def write (style : Style) (v : Json) : Text := writeAt style 0 v

end Json

end Courier
