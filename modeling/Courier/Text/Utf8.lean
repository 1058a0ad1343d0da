import Courier.Text.CodePoint

/-!
The UTF-8 form of texts.

Encoding writes every code point with one to four bytes. Decoding runs a small machine over the
bytes that emits one item for each encoded code point and one for each malformed stretch: a
stretch is as long as some well-formed sequence still begins with it. Refusing malformed input
and replacing it are then two ways to read the same items.
-/

namespace Courier

namespace CodePoint

/-- The bytes of a code point; those of a surrogate follow the pattern of its neighbours. -/
def utf8 (c : CodePoint) : List UInt8 :=
  let n := c.toNat
  let tail := fun (k : Nat) => UInt8.ofNat (0x80 + n / Nat.pow 64 k % 64)
  if n < 0x80 then [UInt8.ofNat n]
  else if n < 0x800 then [UInt8.ofNat (0xC0 + n / 64), tail 0]
  else if n < 0x10000 then [UInt8.ofNat (0xE0 + n / 0x1000), tail 1, tail 0]
  else [UInt8.ofNat (0xF0 + n / 0x40000), tail 2, tail 1, tail 0]

end CodePoint

namespace Utf8

/-- The UTF-8 form of a text, surrogates included. -/
def encode (t : Text) : List UInt8 := t.flatMap CodePoint.utf8

/-- The UTF-8 form of a text that has one: a surrogate has none. -/
def encode? (t : Text) : Option (List UInt8) :=
  if Text.hasSurrogate t then none else some (encode t)

/-- Whether the three bytes of a surrogate are taken as the surrogate or as malformed. -/
inductive Surrogates
  | refused
  | passed
deriving DecidableEq

/-- Where the machine stands between two bytes. -/
inductive State
  /-- Between code points. -/
  | start
  /-- Inside a code point: `more + 1` bytes are due, the next one between `low` and `high`;
  `value` is what the bytes so far denote. -/
  | within (more value low high : Nat)

/-- A decoded code point, or `none` for a malformed stretch of bytes. -/
abbrev Item := Option CodePoint

/-- The effect of a byte between code points. -/
def first (mode : Surrogates) (b : UInt8) : List Item × State :=
  let n := b.toNat
  if n < 0x80 then ([some (CodePoint.ofByte b)], .start)
  else if n < 0xC2 then ([none], .start)
  else if n < 0xE0 then ([], .within 0 (n - 0xC0) 0x80 0xBF)
  else if n = 0xE0 then ([], .within 1 0 0xA0 0xBF)
  else if n = 0xED then ([], .within 1 0xD 0x80 (if mode = .passed then 0xBF else 0x9F))
  else if n < 0xF0 then ([], .within 1 (n - 0xE0) 0x80 0xBF)
  else if n = 0xF0 then ([], .within 2 0 0x90 0xBF)
  else if n < 0xF4 then ([], .within 2 (n - 0xF0) 0x80 0xBF)
  else if n = 0xF4 then ([], .within 2 4 0x80 0x8F)
  else ([none], .start)

/-- The effect of a byte. One that cannot continue the code point ends a malformed stretch and
is looked at again as a first byte. -/
def feed (mode : Surrogates) : State → UInt8 → List Item × State
  | .start, b => first mode b
  | .within more value low high, b =>
    if low ≤ b.toNat ∧ b.toNat ≤ high then
      let value := 64 * value + (b.toNat - 0x80)
      match more with
      | 0 => ([some (CodePoint.ofNat value)], .start)
      | more + 1 => ([], .within more value 0x80 0xBF)
    else
      let (items, state) := first mode b
      (none :: items, state)

/-- The items of a byte sequence, after the items found so far (latest first). -/
def scan (mode : Surrogates) (state : State) (found : List Item) : List UInt8 → List Item
  | [] =>
    match state with
    | .start => found.reverse
    | .within .. => (none :: found).reverse
  | b :: bytes =>
    let (items, state) := feed mode state b
    scan mode state (items.reverse ++ found) bytes

/-- The items of a byte sequence. -/
def items (mode : Surrogates) (bytes : List UInt8) : List Item := scan mode .start [] bytes

/-- The text of a well-formed byte sequence. -/
def decode? (mode : Surrogates) (bytes : List UInt8) : Option Text :=
  let items := items mode bytes
  if items.all Option.isSome then some (items.filterMap id) else none

/-- The text of a byte sequence in which every malformed stretch becomes U+FFFD. -/
def decode (bytes : List UInt8) : Text :=
  (items .refused bytes).map (·.getD CodePoint.replacement)

end Utf8

end Courier
