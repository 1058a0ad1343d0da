import Courier.Proofs.Number.Shortest
import Mathlib.Algebra.Order.Field.Rat
import Mathlib.Data.Int.Cast.Lemmas

/-!
# The value of a double precision number

A finite double precision number is a whole number of units, that is, a fraction with the denominator
`2 ^ 1074`. As the units of a magnitude grow with its number, the value tells which number it is, but for
the two zeros. It also tells whether the number is an integer, and which one.
-/

namespace Courier

namespace Binary64

/-- The units in a number, with its sign. -/
def signedUnits (negative : Bool) (magnitude : Nat) : Int :=
  if negative then -(units magnitude : Int) else units magnitude

/-- The exact value of a finite number. -/
def value? : Binary64 → Option ℚ
  | .finite negative magnitude => some (signedUnits negative magnitude / (one : Int))
  | _ => none

/-! ## Units -/

lemma units_zero : units 0 = 0 := rfl

/-- A greater magnitude has more units. -/
lemma units_strictMono : StrictMono units := by
  refine strictMono_nat_of_lt_succ fun m => ?_
  exact (Decimal.units_gap (Nat.succ_pos m)).1

lemma intCast_one_ne_zero : ((one : Int) : ℚ) ≠ 0 := by
  exact_mod_cast Nat.ne_of_gt Decimal.one_pos

section

variable {x y : Binary64} {p : ℚ} {n : Int} {negative negative' : Bool} {m m' : Nat}

/-- Only of zero are there two. -/
lemma eq_of_signedUnits_eq (h : signedUnits negative m = signedUnits negative' m')
    (hne : signedUnits negative m ≠ 0) : negative = negative' ∧ m = m' := by
  have hunits : negative = negative' ∧ units m = units m' := by
    unfold signedUnits at h hne
    cases negative <;> cases negative' <;> simp only [Bool.false_eq_true, if_true, if_false] at h hne
    · exact ⟨rfl, by omega⟩
    · omega
    · omega
    · exact ⟨rfl, by omega⟩
  exact ⟨hunits.1, units_strictMono.injective hunits.2⟩

/-- A value other than zero is that of one number only. -/
lemma eq_of_value?_eq (hx : x.value? = some p) (hy : y.value? = some p) (hp : p ≠ 0) : x = y := by
  match x, y with
  | .finite negative m, .finite negative' m' =>
    obtain rfl := Option.some.inj hx
    have hunits := (div_left_inj' intCast_one_ne_zero).mp (Option.some.inj hy)
    have hne : signedUnits negative m ≠ 0 := by
      intro hzero
      exact hp (by rw [hzero, Int.cast_zero, zero_div])
    obtain ⟨rfl, hm⟩ := eq_of_signedUnits_eq (Int.cast_injective hunits).symm hne
    rw [Fin.ext hm]

/-! ## Integers -/

lemma toInt?_finite (negative : Bool) (m : Fin 0x7FF0000000000000) :
    toInt? (.finite negative m) =
      if (one : Int) ∣ signedUnits negative m then some (signedUnits negative m / one) else none := by
  have hdvd : (one : Int) ∣ signedUnits negative m ↔ units m % one = 0 := by
    rw [← Nat.dvd_iff_mod_eq_zero, ← Int.natCast_dvd_natCast]
    unfold signedUnits
    cases negative
    · rfl
    · exact Int.dvd_neg
  rw [toInt?]
  simp only [hdvd]
  split
  · next hmod =>
    have hunits : (one : Int) ∣ units m := Int.natCast_dvd_natCast.mpr (Nat.dvd_of_mod_eq_zero hmod)
    unfold signedUnits
    cases negative
    · rfl
    · exact congrArg some (Int.neg_ediv_of_dvd hunits).symm
  · rfl

/-- The integer that a number is found to be is its value. -/
theorem toInt?_eq_some_iff : x.toInt? = some n ↔ x.value? = some (n : ℚ) := by
  match x with
  | .infinite _ => simp [toInt?, value?]
  | .nan => simp [toInt?, value?]
  | .finite negative m =>
    have hone : (one : Int) ≠ 0 := Int.natCast_ne_zero.mpr (Nat.ne_of_gt Decimal.one_pos)
    have hvalue : value? (.finite negative m) = some (n : ℚ) ↔
        signedUnits negative m = n * (one : Int) := by
      rw [value?, Option.some_inj, div_eq_iff intCast_one_ne_zero, ← Int.cast_mul, Int.cast_inj]
    rw [toInt?_finite, hvalue]
    constructor
    · intro h
      split at h
      · next hdvd =>
        obtain rfl := Option.some.inj h
        exact (Int.ediv_mul_cancel hdvd).symm
      · cases h
    · intro h
      rw [h, if_pos (Int.dvd_mul_left _ _), Int.mul_ediv_cancel _ hone]

end

end Binary64

end Courier
