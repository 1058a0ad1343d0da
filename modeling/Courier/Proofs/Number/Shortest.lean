import Courier.Number.Shortest
import Courier.Proofs.Number.Digits
import Courier.Proofs.Number.Rounding

/-!
# The shortest decimal reads back

The search for the shortest decimal tries finer and finer grids. On the last of them, the one of
seventeen digits, it cannot fail: there the grid is so fine that one of the two grid points around a
magnitude lies between the midpoints to its neighbours. So every positive magnitude has a decimal,
and the decimal rounds to it.
-/

namespace Courier

namespace Decimal

open Binary64

/-- The factor by which half units are scaled up when a decimal is compared with a midpoint. -/
def scaleUp : Nat := Nat.pow 10 shift

lemma scaleUp_eq {a b : Nat} (h : a + b = shift) : scaleUp = 10 ^ a * 10 ^ b := by
  rw [← Nat.pow_add, h]
  rfl

lemma scaleUp_pos : 0 < scaleUp := by decide +kernel

lemma one_pos : 0 < one := by decide +kernel

/-- That a decimal lies among the reals that round to a magnitude. -/
structure ReadsAs (d : Decimal) (m : Nat) : Prop where
  exponent_ge : -(shift : Int) ≤ d.exponent
  rounds : Rounds m (d.digits * 10 ^ (d.exponent + shift).toNat * one) scaleUp

/-! ## The grids -/

lemma readsBack_eq (m c j : Nat) : readsBack m c j =
    if m % 2 = 0 then
      decide ((units (m - 1) + units m) * scaleUp ≤ 2 * c * 10 ^ j * one) &&
        decide (2 * c * 10 ^ j * one ≤ (units m + units (m + 1)) * scaleUp)
    else
      decide ((units (m - 1) + units m) * scaleUp < 2 * c * 10 ^ j * one) &&
        decide (2 * c * 10 ^ j * one < (units m + units (m + 1)) * scaleUp) := rfl

lemma onGrid?_eq (m j : Nat) : onGrid? m j =
    let value := units m * scaleUp
    let cell := one * 10 ^ j
    if readsBack m (value / cell) j && readsBack m (value / cell + 1) j then
      some (if 2 * (value % cell) < cell || (2 * (value % cell) = cell && value / cell % 2 = 0)
        then value / cell else value / cell + 1)
    else if readsBack m (value / cell) j then some (value / cell)
    else if readsBack m (value / cell + 1) j then some (value / cell + 1)
    else none := rfl

lemma rounds_of_readsBack {m c j : Nat} (h : readsBack m c j = true) :
    Rounds m (c * 10 ^ j * one) scaleUp := by
  have hassoc : 2 * c * 10 ^ j * one = 2 * (c * 10 ^ j * one) := by
    rw [Nat.mul_assoc 2, Nat.mul_assoc 2]
  rw [readsBack_eq, hassoc] at h
  split at h
  · next heven =>
    rw [Bool.and_eq_true, decide_eq_true_eq, decide_eq_true_eq] at h
    exact ⟨h.1, h.2, fun hodd => absurd heven (by omega)⟩
  · rw [Bool.and_eq_true, decide_eq_true_eq, decide_eq_true_eq] at h
    exact ⟨Nat.le_of_lt h.1, Nat.le_of_lt h.2, fun _ => h⟩

lemma readsBack_of_lt {m c j : Nat}
    (hlow : (units (m - 1) + units m) * scaleUp < 2 * (c * 10 ^ j * one))
    (hhigh : 2 * (c * 10 ^ j * one) < (units m + units (m + 1)) * scaleUp) :
    readsBack m c j = true := by
  have hassoc : 2 * c * 10 ^ j * one = 2 * (c * 10 ^ j * one) := by
    rw [Nat.mul_assoc 2, Nat.mul_assoc 2]
  rw [readsBack_eq, hassoc]
  split
  · rw [Bool.and_eq_true, decide_eq_true_eq, decide_eq_true_eq]
    exact ⟨Nat.le_of_lt hlow, Nat.le_of_lt hhigh⟩
  · rw [Bool.and_eq_true, decide_eq_true_eq, decide_eq_true_eq]
    exact ⟨hlow, hhigh⟩

lemma readsBack_of_onGrid? {m c j : Nat} (h : onGrid? m j = some c) : readsBack m c j = true := by
  rw [onGrid?_eq] at h
  generalize units m * scaleUp / (one * 10 ^ j) = below at h
  dsimp only at h
  split at h
  · next hboth =>
    obtain ⟨hlower, hupper⟩ := Bool.and_eq_true_iff.mp hboth
    rw [← Option.some.inj h]
    split
    · exact hlower
    · exact hupper
  · split at h
    · next hlower => exact Option.some.inj h ▸ hlower
    · split at h
      · next hupper => exact Option.some.inj h ▸ hupper
      · exact absurd h (by simp)

lemma onGrid?_ne_none {m j below : Nat} (hbelow : units m * scaleUp / (one * 10 ^ j) = below)
    (h : readsBack m below j = true ∨ readsBack m (below + 1) j = true) : onGrid? m j ≠ none := by
  rw [onGrid?_eq]
  dsimp only
  rw [hbelow]
  rcases h with h | h
  · rw [h]
    split <;> simp
  · rw [h]
    split
    · simp
    · split <;> simp

/-! ## Seventeen digits -/

/-- The neighbours of a positive magnitude are further apart than twice the last of seventeen digits
of it. -/
lemma units_gap {m : Nat} (hm : 0 < m) :
    units (m - 1) < units m ∧ units m < units (m + 1) ∧
      2 * units m + 10 ^ 16 * units (m - 1) < 10 ^ 16 * units (m + 1) := by
  obtain ⟨k, s, hks, rfl⟩ := exists_isSignificand m
  by_cases hk : s = 0 ∨ binade < k
  · have hpos : 1 ≤ k := by
      rcases hk with rfl | hk
      · omega
      · omega
    rw [units_pred hks hk, units_succ hks, units_eq hks]
    obtain ⟨l, rfl⟩ := Nat.exists_eq_add_of_le' hpos
    have hB := Nat.two_pow_pos s
    have hlt : (l + 1) * 2 ^ s ≤ 2 * binade * 2 ^ s := Nat.mul_le_mul_right _ (Nat.le_of_lt hks.1)
    unfold binade at hlt
    simp only [Nat.add_sub_cancel, Nat.add_mul, Nat.one_mul] at hlt ⊢
    omega
  · -- A power of two, whose lower neighbour is only half as far away.
    obtain ⟨hs, hle⟩ := not_or.mp hk
    obtain rfl : k = binade := Nat.le_antisymm (Nat.not_lt.mp hle) (hks.2.resolve_left hs)
    obtain ⟨r, rfl⟩ := Nat.exists_eq_add_one_of_ne_zero hs
    have hB := Nat.two_pow_pos r
    rw [units_pred_binade, units_succ hks, units_eq hks, Nat.pow_succ]
    unfold binade
    omega

/-- A grid that is as fine as the last of seventeen digits of a positive magnitude has a point that
rounds to it. -/
lemma onGrid?_ne_none_of_fine {m j : Nat} (hm : 0 < m)
    (hfine : 10 ^ 16 * (one * 10 ^ j) ≤ units m * scaleUp) : onGrid? m j ≠ none := by
  obtain ⟨hpred, hsucc, hgap⟩ := units_gap hm
  have hT := scaleUp_pos
  have hcell : 0 < one * 10 ^ j := Nat.mul_pos one_pos (Nat.pow_pos (by decide))
  have hpred := (Nat.mul_lt_mul_right hT).mpr hpred
  have hsucc := (Nat.mul_lt_mul_right hT).mpr hsucc
  have hgap := (Nat.mul_lt_mul_right hT).mpr hgap
  have hpoint : ∀ c, c * 10 ^ j * one = c * (one * 10 ^ j) := fun c => by ring
  have hdiv := Nat.div_add_mod (units m * scaleUp) (one * 10 ^ j)
  have hmod := Nat.mod_lt (units m * scaleUp) hcell
  rw [Nat.mul_comm] at hdiv
  rw [Nat.add_mul, Nat.mul_assoc, Nat.mul_assoc, Nat.mul_assoc] at hgap
  apply onGrid?_ne_none rfl
  by_cases hnear : units (m - 1) * scaleUp + 2 * (units m * scaleUp % (one * 10 ^ j)) <
      units m * scaleUp
  · left
    apply readsBack_of_lt
    · rw [hpoint, Nat.add_mul]
      omega
    · rw [hpoint, Nat.add_mul]
      omega
  · -- The grid point below is too far away, so the one above is near enough.
    right
    apply readsBack_of_lt
    · rw [hpoint, Nat.add_mul, Nat.add_mul]
      omega
    · rw [hpoint, Nat.add_mul, Nat.add_mul]
      omega

/-! ## The search -/

lemma trim_readsAs {m : Nat} (fuel : Nat) {d : Decimal} (h : d.ReadsAs m) :
    (trim fuel d).ReadsAs m := by
  induction fuel generalizing d with
  | zero => exact h
  | succ fuel ih =>
    rw [trim]
    split
    · next hzero =>
      -- A zero that is dropped goes into the exponent.
      apply ih
      obtain ⟨hge, hrounds⟩ := h
      have hpow : (d.exponent + 1 + shift).toNat = (d.exponent + shift).toNat + 1 := by omega
      have hdigits : d.digits / 10 * 10 ^ (d.exponent + 1 + shift).toNat =
          d.digits * 10 ^ (d.exponent + shift).toNat := by
        rw [hpow, Nat.pow_succ', ← Nat.mul_assoc, Nat.div_mul_cancel (Nat.dvd_of_mod_eq_zero hzero.2)]
      refine ⟨by show -(shift : Int) ≤ d.exponent + 1; omega, ?_⟩
      show Rounds m (d.digits / 10 * 10 ^ (d.exponent + 1 + shift).toNat * one) (scaleUp)
      rw [hdigits]
      exact hrounds
    · exact h

lemma search_readsAs {m top : Nat} {precisions : List Nat}
    (h : ∃ p ∈ precisions, onGrid? m (top - p) ≠ none) :
    (search m top precisions).ReadsAs m := by
  induction precisions with
  | nil => simp at h
  | cons p ps ih =>
    rw [search]
    split
    · next c hc =>
      apply trim_readsAs
      refine ⟨by simp, ?_⟩
      simpa using rounds_of_readsBack (readsBack_of_onGrid? hc)
    · next hnone =>
      apply ih
      obtain ⟨q, hq, hgrid⟩ := h
      rcases List.mem_cons.mp hq with rfl | hq
      · exact absurd hnone hgrid
      · exact ⟨q, hq, hgrid⟩

lemma pow_length_toDigits_le {n k : Nat} (hk : 0 < k) (hlarge : 10 ^ k ≤ n) :
    k ≤ (Nat.toDigits 10 n).length - 1 ∧ 10 ^ ((Nat.toDigits 10 n).length - 1) ≤ n := by
  have hlength : k + 1 ≤ (Nat.toDigits 10 n).length := by
    by_contra hlt
    have := (Nat.length_toDigits_le_iff (by decide) hk).mp (Nat.le_of_lt_succ (Nat.not_le.mp hlt))
    omega
  refine ⟨by omega, ?_⟩
  by_contra hlt
  have := (Nat.length_toDigits_le_iff (by decide) (by omega)).mpr (Nat.not_le.mp hlt)
  omega

/-- The shortest decimal of a positive magnitude rounds to it. -/
theorem shortest_readsAs {m : Nat} (hm : 0 < m) : (shortest m).ReadsAs m := by
  show (search m ((Nat.toDigits 10 (units m * scaleUp / one)).length - 1) (List.range 17)).ReadsAs m
  have hunits : 1 ≤ units m := Nat.lt_of_le_of_lt (Nat.zero_le _) (units_gap hm).1
  -- Every positive magnitude has at least seventeen digits before the scaled point.
  have hlarge : 10 ^ 16 ≤ units m * scaleUp / one := by
    rw [Nat.le_div_iff_mul_le one_pos]
    calc 10 ^ 16 * one ≤ 1 * scaleUp := by decide +kernel
      _ ≤ units m * scaleUp := Nat.mul_le_mul_right _ hunits
  have hle : one * (units m * scaleUp / one) ≤ units m * scaleUp := Nat.mul_div_le _ _
  generalize units m * scaleUp / one = scaled at hlarge hle ⊢
  obtain ⟨htop, hpow⟩ := pow_length_toDigits_le (by decide) hlarge
  generalize (Nat.toDigits 10 scaled).length - 1 = top at htop hpow ⊢
  -- The last of the grids succeeds, if none before it does.
  apply search_readsAs
  refine ⟨16, by decide, onGrid?_ne_none_of_fine hm ?_⟩
  calc 10 ^ 16 * (one * 10 ^ (top - 16)) = one * 10 ^ top := by
        rw [Nat.mul_left_comm, ← Nat.pow_add, Nat.add_sub_of_le htop]
    _ ≤ one * scaled := Nat.mul_le_mul_left _ hpow
    _ ≤ units m * scaleUp := hle

/-! ## Reading the decimal -/

lemma units_lt {m : Nat} (hm : m < 0x7FF0000000000000) :
    units m + units (m + 1) < Nat.pow 2 2100 := by
  obtain ⟨k, s, hks, rfl⟩ := exists_isSignificand m
  have hs : s ≤ 2046 := by
    unfold binade at hm
    omega
  have hk : k + (k + 1) < 4 * binade := by
    have := hks.1
    omega
  rw [units_eq hks, units_succ hks, ← Nat.add_mul]
  calc (k + (k + 1)) * 2 ^ s < 4 * binade * 2 ^ s := Nat.mul_lt_mul_of_pos_right hk (Nat.two_pow_pos s)
    _ ≤ 4 * binade * Nat.pow 2 2046 := Nat.mul_le_mul_left _ (Nat.pow_le_pow_right (by decide) hs)
    _ = Nat.pow 2 2100 := by decide +kernel

section

variable {m mantissa : Nat} {exponent : Int}

lemma ReadsAs.mantissa_pos (hpos : 0 < m) (h : ReadsAs ⟨mantissa, exponent⟩ m) :
    0 < mantissa := by
  have hlow := h.rounds.low
  have hunits : 0 < units (m - 1) + units m := by
    have := units_gap hpos
    omega
  have hscaled := Nat.mul_pos hunits scaleUp_pos
  by_contra hzero
  have hmantissa : mantissa = 0 := by omega
  simp only [hmantissa, Nat.zero_mul, Nat.mul_zero] at hlow
  omega

/-- Finite magnitudes are below `10 ^ 310`. -/
lemma ReadsAs.exponent_lt (hpos : 0 < m) (hm : m < 0x7FF0000000000000)
    (h : ReadsAs ⟨mantissa, exponent⟩ m) : exponent < 310 := by
  by_contra hge
  have hhigh := h.rounds.high
  dsimp only at hhigh
  have hpow : 1 * Nat.pow 10 650 ≤ mantissa * 10 ^ (exponent + shift).toNat := by
    refine Nat.mul_le_mul (h.mantissa_pos hpos) (Nat.pow_le_pow_right (by decide) ?_)
    unfold shift
    omega
  have hlarge := Nat.mul_le_mul_left 2 (Nat.mul_le_mul_right one hpow)
  have hsmall := (Nat.mul_lt_mul_right scaleUp_pos).mpr (units_lt hm)
  have hconst : Nat.pow 2 2100 * scaleUp ≤ 2 * (1 * Nat.pow 10 650 * one) := by decide +kernel
  omega

/-- Positive magnitudes are above `10 ^ -330`. -/
lemma ReadsAs.le_exponent_add (hpos : 0 < m) (h : ReadsAs ⟨mantissa, exponent⟩ m) {digits : Nat}
    (hdigits : mantissa < 10 ^ digits) : -330 ≤ exponent + digits := by
  by_contra hlt
  have hlow := h.rounds.low
  have hge := h.exponent_ge
  dsimp only at hlow hge
  have hpow : mantissa * 10 ^ (exponent + shift).toNat ≤ 10 ^ 9 := by
    calc mantissa * 10 ^ (exponent + shift).toNat ≤ 10 ^ digits * 10 ^ (exponent + shift).toNat :=
          Nat.mul_le_mul_right _ (Nat.le_of_lt hdigits)
      _ = 10 ^ (digits + (exponent + shift).toNat) := (Nat.pow_add _ _ _).symm
      _ ≤ 10 ^ 9 := Nat.pow_le_pow_right (by decide) (by unfold shift at *; omega)
  have hsmall := Nat.mul_le_mul_left 2 (Nat.mul_le_mul_right one hpow)
  have hunits : 1 ≤ units (m - 1) + units m := by
    have := units_gap hpos
    omega
  have hlarge := Nat.mul_le_mul_right scaleUp hunits
  have hconst : 2 * (10 ^ 9 * one) < 1 * scaleUp := by decide +kernel
  omega

lemma ofFraction_eq (hm : m < 0x7FF0000000000000) {a b c : Nat} (hb : 0 < b) (hc : 0 < c)
    (h : Rounds m (a * one * c) (b * c)) (negative : Bool) :
    ofFraction negative a b = .finite negative ⟨m, hm⟩ := by
  rw [ofFraction, nearest_eq hb ((Rounds.scale_iff hc).mp h), ofMagnitude, dif_pos hm]

/-- Zeros may be added to the digits of a decimal. -/
lemma ReadsAs.pad {d : Decimal} (h : d.ReadsAs m) {k : Nat}
    (hk : -(shift : Int) ≤ d.exponent - k) : ReadsAs ⟨d.digits * 10 ^ k, d.exponent - k⟩ m := by
  refine ⟨hk, ?_⟩
  have hrounds := h.rounds
  have hsplit : (d.exponent + shift).toNat = k + (d.exponent - k + shift).toNat := by omega
  rw [hsplit, Nat.pow_add, ← Nat.mul_assoc] at hrounds
  exact hrounds

/-- A mantissa and an exponent that lie among the reals that round to a magnitude denote it. -/
theorem ReadsAs.ofDecimal_eq (hpos : 0 < m) (hm : m < 0x7FF0000000000000)
    (h : ReadsAs ⟨mantissa, exponent⟩ m) {digits : Nat} (hdigits : mantissa < 10 ^ digits)
    (negative : Bool) :
    ofDecimal negative mantissa digits exponent = .finite negative ⟨m, hm⟩ := by
  have hmantissa : mantissa ≠ 0 := Nat.ne_of_gt (h.mantissa_pos hpos)
  have hlt := h.exponent_lt hpos hm
  have hge := h.le_exponent_add hpos hdigits
  have hrounds := h.rounds
  have hshift := h.exponent_ge
  dsimp only at hrounds hshift
  rw [ofDecimal, if_neg hmantissa, if_neg (by omega), if_neg (by omega)]
  -- The scaling is a factor of both sides of the quotient that is rounded.
  split
  · have hscale : 10 ^ (exponent + shift).toNat = 10 ^ exponent.toNat * scaleUp := by
      rw [scaleUp_eq (Nat.add_zero shift), Nat.pow_zero, Nat.mul_one, ← Nat.pow_add]
      congr 1
      omega
    refine ofFraction_eq hm Nat.one_pos scaleUp_pos ?_ negative
    rw [hscale, ← Nat.mul_assoc, Nat.mul_right_comm] at hrounds
    rw [Nat.one_mul]
    exact hrounds
  · have hscale : scaleUp = 10 ^ (-exponent).toNat * 10 ^ (exponent + shift).toNat :=
      scaleUp_eq (by omega)
    have hten : ∀ n : Nat, 0 < 10 ^ n := fun n => Nat.pow_pos (by decide)
    rw [hscale, Nat.mul_right_comm] at hrounds
    exact ofFraction_eq hm (hten _) (hten _) hrounds negative

end

end Decimal

end Courier
