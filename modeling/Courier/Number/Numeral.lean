import Courier.Number.Shortest

/-!
Numerals of double precision numbers.

Writing uses the shortest decimal that reads back, positionally while the leading digit stands for
ones to `10 ^ 15` or at least for `10 ^ -4`, and with an exponent of at least two digits beyond.
Reading takes the nearest number.
-/

namespace Courier

namespace Binary64

/-- The words for the values that are not finite. -/
structure Words where
  infinite : String
  nan : String

/-- The words used outside JSON texts. -/
def plainWords : Words := ⟨"inf", "nan"⟩

/-- The words that take the place of the missing JSON numbers. -/
def jsonWords : Words := ⟨"Infinity", "NaN"⟩

/-- An exponent with its sign and at least two digits. -/
def writeExponent (e : Int) : Text :=
  let digits := Text.ofNat e.natAbs
  CodePoint.ofChar (if e < 0 then '-' else '+') ::
    (if digits.length < 2 then CodePoint.ofChar '0' :: digits else digits)

/-- The numeral of a decimal with at least one digit. -/
def layOut (d : Decimal) : Text :=
  let digits := Text.ofNat d.digits
  let zeros := fun n => List.replicate n (CodePoint.ofChar '0')
  -- The power of ten of the leading digit.
  let leading := d.exponent + digits.length - 1
  if leading < -4 ∨ 16 ≤ leading then
    let mantissa := match digits with
      | [] => []
      | [first] => [first]
      | first :: rest => first :: CodePoint.ofChar '.' :: rest
    mantissa ++ (CodePoint.ofChar 'e' :: writeExponent leading)
  else if leading < 0 then
    Text.ofString "0." ++ zeros (-leading - 1).toNat ++ digits
  else if 0 ≤ d.exponent then
    digits ++ zeros d.exponent.toNat ++ Text.ofString ".0"
  else
    let (whole, fraction) := digits.splitAt (leading.toNat + 1)
    whole ++ (CodePoint.ofChar '.' :: fraction)

/-- The numeral of a magnitude. -/
def writeMagnitude (magnitude : Nat) : Text :=
  if magnitude = 0 then Text.ofString "0.0" else layOut (Decimal.shortest magnitude)

/-- The numeral of a number. -/
def write (words : Words) : Binary64 → Text
  | .finite negative magnitude =>
    if negative then CodePoint.ofChar '-' :: writeMagnitude magnitude else writeMagnitude magnitude
  | .infinite negative =>
    if negative then CodePoint.ofChar '-' :: Text.ofString words.infinite
    else Text.ofString words.infinite
  | .nan => Text.ofString words.nan

/-- The number nearest to the decimal with the given digits before and after the point, times a
power of ten. -/
def ofDigits (negative : Bool) (whole fraction : Text) (exponent : Int) : Binary64 :=
  ofDecimal negative (Text.digitsValue (whole ++ fraction)) (whole.length + fraction.length)
    (exponent - fraction.length)

/-- A sign at the beginning of a text, whether it is a minus, and what follows it. -/
def takeSign (t : Text) : Bool × Text :=
  match t with
  | c :: rest => if c = '-' then (true, rest) else if c = '+' then (false, rest) else (false, t)
  | [] => (false, t)

/-- The exponent at the end of a numeral: nothing, or `e` with an integer. -/
def readExponent? (t : Text) : Option Int :=
  match t with
  | [] => some 0
  | c :: rest =>
    if c = 'e' ∨ c = 'E' then
      let (negative, digits) := takeSign rest
      if !digits.isEmpty && digits.all CodePoint.isDigit then
        let n := Text.digitsValue digits
        some (if negative then -(n : Int) else n)
      else none
    else none

/-- Reads a numeral: a sign, digits with a point among them, an exponent, all but one digit
optional; or one of the words for the values that are not finite, in any case. -/
def read? (t : Text) : Option Binary64 :=
  let (negative, t) := takeSign t
  let word := t.map CodePoint.lowerAscii
  if word = Text.ofString "inf" ∨ word = Text.ofString "infinity" then some (.infinite negative)
  else if word = Text.ofString "nan" then some .nan
  else
    let (whole, rest) := t.span CodePoint.isDigit
    let (fraction, rest) := match rest with
      | c :: after => if c = '.' then after.span CodePoint.isDigit else ([], rest)
      | [] => ([], rest)
    if whole.isEmpty && fraction.isEmpty then none
    else (readExponent? rest).map (ofDigits negative whole fraction)

end Binary64

end Courier
