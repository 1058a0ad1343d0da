import Courier.Number.Binary64
import Courier.Text.CodePoint

/-!
The shortest decimal that reads back.

A decimal reads back as a double precision number when it lies among the reals that round to the
number: those between the midpoints to the two neighbours, the midpoints included when the number
is even. Of the decimals with the fewest digits that do, the one nearest to the number is taken.
-/

namespace Courier

/-- A decimal: `digits * 10 ^ exponent`. -/
structure Decimal where
  digits : Nat
  exponent : Int
deriving DecidableEq

namespace Decimal

/-- The power of ten by which decimals are scaled up: `10 ^ -340` is finer than the last of 17
digits of any magnitude. -/
def shift : Nat := 340

/-- Whether `c * 10 ^ (j - shift)` rounds to the magnitude. The comparison is between
numbers of half units, scaled up by `10 ^ shift`. -/
def readsBack (magnitude c j : Nat) : Bool :=
  let x := 2 * c * Nat.pow 10 j * Binary64.one
  let here := Binary64.units magnitude
  let low := (Binary64.units (magnitude - 1) + here) * Nat.pow 10 shift
  let high := (here + Binary64.units (magnitude + 1)) * Nat.pow 10 shift
  if magnitude % 2 = 0 then low ≤ x && x ≤ high else low < x && x < high

/-- The better of the two multiples of `10 ^ (j - shift)` around the magnitude that read back:
the nearer one, and the even one of two that are equally near. -/
def onGrid? (magnitude j : Nat) : Option Nat :=
  let value := Binary64.units magnitude * Nat.pow 10 shift
  let cell := Binary64.one * Nat.pow 10 j
  let below := value / cell
  let twice := 2 * (value % cell)
  let lower := readsBack magnitude below j
  let upper := readsBack magnitude (below + 1) j
  if lower && upper then
    some (if twice < cell || (twice = cell && below % 2 = 0) then below else below + 1)
  else if lower then some below
  else if upper then some (below + 1)
  else none

/-- The decimal without its trailing zeros; `fuel` bounds their number. -/
def trim (fuel : Nat) (d : Decimal) : Decimal :=
  match fuel with
  | 0 => d
  | fuel + 1 =>
    if d.digits ≠ 0 ∧ d.digits % 10 = 0 then trim fuel ⟨d.digits / 10, d.exponent + 1⟩ else d

/-- The first grid with a hit, from the grid of one digit to that of seventeen; `top` is the
scaled exponent of the first digit. -/
def search (magnitude top : Nat) : (precisions : List Nat) → Decimal
  | [] => ⟨0, 0⟩
  | p :: ps =>
    match onGrid? magnitude (top - p) with
    | some c => trim 18 ⟨c, (top - p : Nat) - (shift : Int)⟩
    | none => search magnitude top ps

/-- The shortest decimal that reads back as a positive magnitude. -/
def shortest (magnitude : Nat) : Decimal :=
  let scaled := Binary64.units magnitude * Nat.pow 10 shift / Binary64.one
  search magnitude ((Nat.toDigits 10 scaled).length - 1) (List.range 17)

end Decimal

end Courier
