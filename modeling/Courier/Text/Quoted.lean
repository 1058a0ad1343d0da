import Courier.Text.Visible

/-!
Quoted texts, as error messages show them.

A text is put between apostrophes, or between quotation marks when it holds an apostrophe and no
quotation mark. The quote, the backslash, and all code points without a visible form are escaped.
-/

namespace Courier

namespace CodePoint

/-- The apostrophe, the usual quote. -/
def apostrophe : CodePoint := ⟨0x27, by decide⟩

/-- The numeric escape of a code point: the shortest of `\x`, `\u` and `\U` that holds it. -/
def numericEscape (c : CodePoint) : Text :=
  if c.toNat < 0x100 then Text.ofString "\\x" ++ Text.hex 2 c.toNat
  else if c.toNat < 0x10000 then Text.ofString "\\u" ++ Text.hex 4 c.toNat
  else Text.ofString "\\U" ++ Text.hex 8 c.toNat

/-- A code point inside a text quoted with `quote`. -/
def quoted (quote c : CodePoint) : Text :=
  if c = quote ∨ c = '\\' then ['\\', c]
  else if c = '\n' then Text.ofString "\\n"
  else if c = '\r' then Text.ofString "\\r"
  else if c = '\t' then Text.ofString "\\t"
  else if c.isVisible then [c]
  else c.numericEscape

end CodePoint

namespace Text

/-- The quote that a text is shown with. -/
def quoteFor (t : Text) : CodePoint :=
  if t.contains CodePoint.apostrophe && !t.contains (CodePoint.ofChar '"') then '"'
  else CodePoint.apostrophe

/-- The text between quotes. -/
def quote (t : Text) : Text :=
  let q := quoteFor t
  [q] ++ t.flatMap (CodePoint.quoted q) ++ [q]

end Text

end Courier
