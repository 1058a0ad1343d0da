/-!
Double precision numbers.

The finite magnitudes of the 64-bit binary format are numbered in increasing order: number 0 is
zero, 1 the smallest positive magnitude, and the numbers double as the bit patterns of the format.
All magnitudes are whole multiples of `2 ^ -1074`, so every computation below is one on natural
numbers, with that fraction as the unit.
-/

namespace Courier

/-- A quotient of natural numbers rounded to a whole number; a half goes to the even neighbour. -/
def roundedQuotient (a b : Nat) : Nat :=
  let q := a / b
  let r := a % b
  if 2 * r < b then q else if b < 2 * r then q + 1 else q + q % 2

/-- A double precision number. There is one not-a-number value. The largest exponent, 2047, is not
one of a finite magnitude, which bounds the numbers of those by 2047 times two to the 52nd. -/
inductive Binary64
  | finite (negative : Bool) (magnitude : Fin 0x7FF0000000000000)
  | infinite (negative : Bool)
  | nan
deriving DecidableEq

namespace Binary64

/-- The units in one. -/
def one : Nat := Nat.pow 2 1074

/-- Two to the 52nd: the magnitudes that share an exponent. -/
def binade : Nat := 0x10000000000000

/-- The units in the magnitude of a given number: 52 bits of it are a fraction, the bits above
are an exponent, and an exponent of zero stands for the same unit as an exponent of one. -/
def units (magnitude : Nat) : Nat :=
  let exponent := magnitude / binade
  let fraction := magnitude % binade
  if exponent = 0 then fraction else (binade + fraction) * Nat.pow 2 (exponent - 1)

/-- The magnitude nearest to `a / b` units, as if there were no largest one. It keeps 53 bits of
the quotient, or all of them when it has no more than that; of two nearest it is the even one. -/
def nearest (a b : Nat) : Nat :=
  let surplus := (a / b).log2 - 52
  surplus * binade + roundedQuotient a (b * Nat.pow 2 surplus)

/-- The number of a sign and a magnitude; beyond the largest magnitude lies infinity. -/
def ofMagnitude (negative : Bool) (magnitude : Nat) : Binary64 :=
  if h : magnitude < 0x7FF0000000000000 then .finite negative ⟨magnitude, h⟩ else .infinite negative

/-- The number nearest to a fraction. -/
def ofFraction (negative : Bool) (numerator denominator : Nat) : Binary64 :=
  ofMagnitude negative (nearest (numerator * one) denominator)

def zero : Binary64 := .finite false ⟨0, by decide⟩

/-- The number nearest to `mantissa * 10 ^ exponent`, where the mantissa has at most `digits`
digits. Magnitudes from `10 ^ 310` on are infinite and those below `10 ^ -330` are zero, which
spares computing large powers of ten for them. -/
def ofDecimal (negative : Bool) (mantissa digits : Nat) (exponent : Int) : Binary64 :=
  if mantissa = 0 then .finite negative ⟨0, by decide⟩
  else if exponent ≥ 310 then .infinite negative
  else if exponent + digits < -330 then .finite negative ⟨0, by decide⟩
  else if exponent ≥ 0 then ofFraction negative (mantissa * Nat.pow 10 exponent.toNat) 1
  else ofFraction negative mantissa (Nat.pow 10 (-exponent).toNat)

/-- The number nearest to a natural number. -/
def ofNat (n : Nat) : Binary64 := ofFraction false n 1

/-- The number nearest to an integer. -/
def ofInt (n : Int) : Binary64 := ofFraction (n < 0) n.natAbs 1

def isFinite : Binary64 → Bool
  | .finite .. => true
  | _ => false

/-- Whether a number is zero or below; not-a-number is not. -/
def isAtMostZero : Binary64 → Bool
  | .finite negative magnitude => negative || magnitude.val = 0
  | .infinite negative => negative
  | .nan => false

/-- The integer that a number is, if it is one. -/
def toInt? : Binary64 → Option Int
  | .finite negative magnitude =>
    let u := units magnitude
    if u % one = 0 then some (if negative then -(u / one : Nat) else (u / one : Nat)) else none
  | _ => none

/-- The integer part of a finite number, and zero for the others. -/
def truncate : Binary64 → Int
  | .finite negative magnitude =>
    let n := units magnitude / one
    if negative then -(n : Int) else n
  | _ => 0

/-- The product with a natural number, rounded. -/
def scale (factor : Nat) : Binary64 → Binary64
  | .finite negative magnitude => ofFraction negative (units magnitude * factor) one
  | x => x

end Binary64

end Courier
