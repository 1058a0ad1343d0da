import Courier.Text.Utf8

/-!
Percent encoding.

In the parts of a query, letters, digits and nine marks stand for themselves; every other code point
is written as its UTF-8 bytes, each as a percent sign with two hexadecimal digits. Escaping writes a
text that may be encoded in part already, and other code points may stand for themselves then.
Decoding takes the same form back and leaves everything else alone.
-/

namespace Courier

namespace Percent

/-- The marks that stand for themselves. -/
def marks : List Char := ['-', '_', '.', '!', '~', '*', Char.ofNat 0x27, '(', ')']

/-- Whether a code point stands for itself. -/
def isUnreserved (c : CodePoint) : Bool :=
  c.isLetter || c.isDigit || marks.any fun mark => CodePoint.ofChar mark = c

/-- A byte as a percent sign with two digits. -/
def encodeByte (b : UInt8) : Text :=
  [CodePoint.ofChar '%', CodePoint.hexUpper (b.toNat / 16), CodePoint.hexUpper (b.toNat % 16)]

/-- A code point in encoded form. -/
def encodeCodePoint (c : CodePoint) : Text :=
  if isUnreserved c then [c] else c.utf8.flatMap encodeByte

/-- The encoded form of a text; one with a surrogate has none. -/
def encode? (t : Text) : Option Text :=
  if Text.hasSurrogate t then none else some (t.flatMap encodeCodePoint)

/-- The text with every code point outside of a class encoded, but for percent signs with two digits
after them, which are encoded bytes already. -/
def escape (isSafe : CodePoint → Bool) : Text → Text
  | c :: a :: b :: rest =>
    if c = '%' ∧ (a.hexValue?.isSome && b.hexValue?.isSome) = true then
      c :: a :: b :: escape isSafe rest
    else (if isSafe c then [c] else c.utf8.flatMap encodeByte) ++ escape isSafe (a :: b :: rest)
  | c :: rest => (if isSafe c then [c] else c.utf8.flatMap encodeByte) ++ escape isSafe rest
  | [] => []

/-- The bytes of ASCII text in which a percent sign with two hexadecimal digits is one byte, after
the bytes decoded so far (latest first). -/
def asciiBytes (found : List UInt8) : Text → List UInt8
  | [] => found.reverse
  | c :: a :: b :: rest =>
    let byte? := if c = '%' then
        match a.hexValue?, b.hexValue? with
        | some high, some low => some (UInt8.ofNat (16 * high + low))
        | _, _ => none
      else none
    match byte? with
    | some byte => asciiBytes (byte :: found) rest
    | none => asciiBytes (UInt8.ofNat c.toNat :: found) (a :: b :: rest)
  | c :: rest => asciiBytes (UInt8.ofNat c.toNat :: found) rest

/-- The decoded form of ASCII text, with U+FFFD for what is malformed. -/
def decodeAscii (t : Text) : Text := Utf8.decode (asciiBytes [] t)

/-- The decoded form of a text. Each run of ASCII is decoded on its own; other code points are left
alone. -/
def decode (t : Text) : Text :=
  let step := fun (c : CodePoint) (parts : Text × Text) =>
    if c.isAscii then (c :: parts.1, parts.2) else ([], c :: (decodeAscii parts.1 ++ parts.2))
  let parts := t.foldr step ([], [])
  decodeAscii parts.1 ++ parts.2

end Percent

end Courier
