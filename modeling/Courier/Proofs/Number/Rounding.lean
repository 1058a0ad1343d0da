import Courier.Number.Binary64
import Mathlib.Tactic.Ring
import Mathlib.Tactic.Linarith

/-!
# Rounding to a double precision magnitude

A quotient is rounded to a magnitude by keeping 53 bits of it. Here the result is described without
those bits: a quotient rounds to a magnitude as soon as it lies between the midpoints to the two
neighbours of the magnitude, strictly if the magnitude is odd. The argument is one about the
significand and the scale of a magnitude, since the three magnitudes around a quotient share a
scale, except below a power of two, where the lower neighbour is only half as far away.
-/

namespace Courier

/-- A quotient within a half of a whole number rounds to it, and so does one at a distance of
exactly a half from an even number. -/
lemma roundedQuotient_eq {a b k : Nat} (hlow : 2 * (k * b) ≤ 2 * a + b)
    (hhigh : 2 * a ≤ 2 * (k * b) + b)
    (hodd : k % 2 = 1 → 2 * (k * b) < 2 * a + b ∧ 2 * a < 2 * (k * b) + b) (hb : 0 < b) :
    roundedQuotient a b = k := by
  obtain ⟨q, r, hr, rfl⟩ : ∃ q r, r < b ∧ a = q * b + r :=
    ⟨a / b, a % b, Nat.mod_lt a hb, by rw [Nat.mul_comm]; exact (Nat.div_add_mod a b).symm⟩
  have hdiv : (q * b + r) / b = q := by
    rw [Nat.mul_comm, Nat.mul_add_div hb, Nat.div_eq_of_lt hr, Nat.add_zero]
  have hmod : (q * b + r) % b = r := by
    rw [Nat.mul_comm, Nat.mul_add_mod, Nat.mod_eq_of_lt hr]
  -- The whole number is the integer part of the quotient or the next one.
  have hge : q ≤ k := by
    by_contra hlt
    have : (k + 1) * b ≤ q * b := Nat.mul_le_mul_right b (by omega)
    rw [Nat.add_mul] at this
    omega
  have hle : k ≤ q + 1 := by
    by_contra hlt
    have : (q + 2) * b ≤ k * b := Nat.mul_le_mul_right b (by omega)
    rw [Nat.add_mul] at this
    omega
  simp only [roundedQuotient, hdiv, hmod]
  rcases (show k = q ∨ k = q + 1 by omega) with rfl | rfl
  · split
    · rfl
    · rw [if_neg (by omega)]
      have heven : ¬k % 2 = 1 := fun h => by have := hodd h; omega
      omega
  · rw [Nat.add_mul, Nat.one_mul] at hlow hhigh hodd
    rw [if_neg (by omega)]
    split
    · rfl
    · have heven : ¬(q + 1) % 2 = 1 := fun h => by have := hodd h; omega
      omega

namespace Binary64

/-! ## Significands and scales -/

/-- A significand as magnitudes have it at a scale: at most 53 bits, and exactly 53 unless the scale
is the least. -/
def IsSignificand (k s : Nat) : Prop := k < 2 * binade ∧ (s = 0 ∨ binade ≤ k)

lemma exists_isSignificand (m : Nat) : ∃ k s, IsSignificand k s ∧ m = s * binade + k := by
  refine ⟨m - (m / binade - 1) * binade, m / binade - 1, ?_, ?_⟩
  · unfold IsSignificand binade
    omega
  · unfold binade
    omega

lemma units_eq_ite (m : Nat) :
    units m = if m / binade = 0 then m % binade
      else (binade + m % binade) * 2 ^ (m / binade - 1) := rfl

lemma units_eq {k s : Nat} (h : IsSignificand k s) :
    units (s * binade + k) = k * 2 ^ s := by
  obtain ⟨hlt, hs⟩ := h
  by_cases hk : k < binade
  · obtain rfl : s = 0 := by omega
    have hdiv : k / binade = 0 := Nat.div_eq_of_lt hk
    rw [Nat.zero_mul, Nat.zero_add, units_eq_ite, hdiv, if_pos rfl, Nat.mod_eq_of_lt hk,
      Nat.pow_zero, Nat.mul_one]
  · have hdiv : (s * binade + k) / binade = s + 1 := by
      unfold binade at *
      omega
    have hmod : (s * binade + k) % binade = k - binade := by
      unfold binade at *
      omega
    have hkept : binade + (k - binade) = k := Nat.add_sub_of_le (Nat.not_lt.mp hk)
    rw [units_eq_ite, hdiv, hmod, if_neg (Nat.succ_ne_zero s), hkept, Nat.add_sub_cancel]

lemma units_succ {k s : Nat} (h : IsSignificand k s) :
    units (s * binade + k + 1) = (k + 1) * 2 ^ s := by
  obtain ⟨hlt, hs⟩ := h
  by_cases hk : k + 1 < 2 * binade
  · rw [Nat.add_assoc]
    exact units_eq ⟨hk, by omega⟩
  · -- The next magnitude is a power of two, the first one at the next scale.
    have hm : s * binade + k + 1 = (s + 1) * binade + binade := by
      rw [Nat.add_mul]
      omega
    have hb : IsSignificand binade (s + 1) := ⟨by decide, .inr (Nat.le_refl _)⟩
    rw [hm, units_eq hb, show k + 1 = binade * 2 by omega, Nat.pow_succ]
    ring

lemma units_pred {k s : Nat} (h : IsSignificand k s) (hk : s = 0 ∨ binade < k) :
    units (s * binade + k - 1) = (k - 1) * 2 ^ s := by
  obtain ⟨hlt, hs⟩ := h
  have hpred : s * binade + k - 1 = s * binade + (k - 1) := by
    unfold binade at *
    omega
  rw [hpred]
  exact units_eq ⟨by omega, by omega⟩

/-- The lower neighbour of a power of two is the last magnitude at the scale below. -/
lemma units_pred_binade (s : Nat) :
    units ((s + 1) * binade + binade - 1) = (2 * binade - 1) * 2 ^ s := by
  have hpred : (s + 1) * binade + binade - 1 = s * binade + (2 * binade - 1) := by
    unfold binade
    omega
  rw [hpred]
  exact units_eq ⟨by decide, .inr (by decide)⟩

lemma le_units_pred {k s : Nat} (h : IsSignificand k s) :
    (k - 1) * 2 ^ s ≤ units (s * binade + k - 1) := by
  by_cases hk : s = 0 ∨ binade < k
  · exact Nat.le_of_eq (units_pred h hk).symm
  · obtain ⟨hs, hle⟩ := not_or.mp hk
    obtain rfl : k = binade := Nat.le_antisymm (Nat.not_lt.mp hle) (h.2.resolve_left hs)
    obtain ⟨r, rfl⟩ := Nat.exists_eq_add_one_of_ne_zero hs
    rw [units_pred_binade, Nat.pow_succ, Nat.mul_comm (2 ^ r), ← Nat.mul_assoc]
    exact Nat.mul_le_mul_right _ (by decide)

/-! ## Rounding -/

/-- That `a / b` units lie among the reals that round to a magnitude: between the midpoints to its
neighbours, strictly if the magnitude is odd. -/
structure Rounds (m a b : Nat) : Prop where
  low : (units (m - 1) + units m) * b ≤ 2 * a
  high : 2 * a ≤ (units m + units (m + 1)) * b
  strict : m % 2 = 1 →
    (units (m - 1) + units m) * b < 2 * a ∧ 2 * a < (units m + units (m + 1)) * b

lemma Rounds.scale_iff {m a b c : Nat} (hc : 0 < c) :
    Rounds m (a * c) (b * c) ↔ Rounds m a b := by
  have hle : ∀ x y : Nat, x * c ≤ y * c ↔ x ≤ y := fun x y => Nat.mul_le_mul_right_iff hc
  have hlt : ∀ x y : Nat, x * c < y * c ↔ x < y := fun x y => Nat.mul_lt_mul_right hc
  constructor
  · rintro ⟨hlow, hhigh, hstrict⟩
    simp only [← Nat.mul_assoc, hle, hlt] at hlow hhigh hstrict
    exact ⟨hlow, hhigh, hstrict⟩
  · rintro ⟨hlow, hhigh, hstrict⟩
    refine ⟨?_, ?_, ?_⟩ <;> simp only [← Nat.mul_assoc, hle, hlt] <;> assumption

/-- The scale at which a quotient is rounded. -/
lemma surplus_eq {a b s : Nat} (hb : 0 < b) (hlt : a < 2 * binade * 2 ^ s * b)
    (hle : s = 0 ∨ binade * 2 ^ s * b ≤ a) : (a / b).log2 - 52 = s := by
  have hupper : a / b < 2 ^ (53 + s) := by
    rw [Nat.div_lt_iff_lt_mul hb, Nat.pow_add]
    exact hlt
  rcases hle with rfl | hle
  · by_cases hz : a / b = 0
    · rw [hz]
      decide
    · have := (Nat.log2_lt hz).mpr hupper
      omega
  · have hlower : 2 ^ (52 + s) ≤ a / b := by
      rw [Nat.le_div_iff_mul_le hb, Nat.pow_add]
      exact hle
    have hz : a / b ≠ 0 := fun h => by
      rw [h] at hlower
      exact absurd hlower (Nat.not_le.mpr (Nat.two_pow_pos _))
    have hfloor := (Nat.le_log2 hz).mpr hlower
    have hceil := (Nat.log2_lt hz).mpr hupper
    omega

lemma nearest_eq_of_surplus {a b s k : Nat} (hs : (a / b).log2 - 52 = s)
    (hk : roundedQuotient a (2 ^ s * b) = k) : nearest a b = s * binade + k := by
  show ((a / b).log2 - 52) * binade + roundedQuotient a (b * 2 ^ ((a / b).log2 - 52)) = _
  rw [hs, Nat.mul_comm b, hk]

/-- Among the reals that round to a power of two are some below it, at the scale below. -/
lemma nearest_eq_of_lt_binade {a b s : Nat} (hb : 0 < b)
    (hlow : (2 * binade - 1 + 2 * binade) * (2 ^ s * b) ≤ 2 * a)
    (hlt : a < 2 * binade * (2 ^ s * b)) : nearest a b = (s + 1) * binade + binade := by
  have hB : 0 < 2 ^ s * b := Nat.mul_pos (Nat.two_pow_pos s) hb
  have hscale : (a / b).log2 - 52 = s := by
    refine surplus_eq hb ?_ (.inr ?_)
    · rw [Nat.mul_assoc]
      exact hlt
    · rw [Nat.mul_assoc]
      unfold binade at *
      omega
  have hround : roundedQuotient a (2 ^ s * b) = 2 * binade := by
    generalize 2 ^ s * b = B at *
    unfold binade at *
    exact roundedQuotient_eq (by omega) (by omega) (by omega) hB
  rw [nearest_eq_of_surplus hscale hround]
  ring

/-- A quotient at the scale of a magnitude is rounded to it as its significand is. -/
lemma nearest_eq_of_scale {a b s k : Nat} (hb : 0 < b) (hks : IsSignificand k s)
    (h : Rounds (s * binade + k) a b) (hbelow : s = 0 ∨ binade * (2 ^ s * b) ≤ a) :
    nearest a b = s * binade + k := by
  obtain ⟨hlow, hhigh, hstrict⟩ := h
  have hB : 0 < 2 ^ s * b := Nat.mul_pos (Nat.two_pow_pos s) hb
  rw [units_succ hks, units_eq hks, ← Nat.add_mul, Nat.mul_assoc] at hhigh hstrict
  have hpred := Nat.mul_le_mul_right b (le_units_pred hks)
  rw [Nat.mul_assoc] at hpred
  rw [units_eq hks] at hlow
  rw [Nat.add_mul, Nat.mul_assoc k] at hlow hstrict
  have hk : (k - 1) * (2 ^ s * b) + 2 ^ s * b ≥ k * (2 ^ s * b) := by
    rw [← Nat.succ_mul]
    exact Nat.mul_le_mul_right _ (by omega)
  have hlt : (k + 1) * (2 ^ s * b) ≤ 2 * binade * (2 ^ s * b) :=
    Nat.mul_le_mul_right _ hks.1
  -- The number of a magnitude is odd with its significand, since a binade has even length.
  have hodd : k % 2 = 1 → (s * binade + k) % 2 = 1 := by
    unfold binade
    omega
  rw [Nat.add_mul, Nat.add_mul, Nat.one_mul] at hhigh hstrict
  rw [Nat.add_mul, Nat.one_mul] at hlt
  have hround : roundedQuotient a (2 ^ s * b) = k := by
    refine roundedQuotient_eq ?_ ?_ ?_ hB
    · omega
    · omega
    · intro h
      have := hstrict (hodd h)
      omega
  have hscale : (a / b).log2 - 52 = s := by
    refine surplus_eq hb ?_ ?_
    · rw [Nat.mul_assoc]
      omega
    · rw [Nat.mul_assoc]
      exact hbelow
  exact nearest_eq_of_surplus hscale hround

/-- A quotient that lies among the reals that round to a magnitude is rounded to it. -/
theorem nearest_eq {m a b : Nat} (hb : 0 < b) (h : Rounds m a b) : nearest a b = m := by
  obtain ⟨k, s, hks, rfl⟩ := exists_isSignificand m
  -- The quotient has the scale of the magnitude, or else it lies below and the magnitude is a power
  -- of two.
  by_cases hbelow : s = 0 ∨ binade * (2 ^ s * b) ≤ a
  · exact nearest_eq_of_scale hb hks h hbelow
  · obtain ⟨hs, hlt⟩ := not_or.mp hbelow
    have hlt := Nat.not_le.mp hlt
    have hlow := h.low
    obtain ⟨r, rfl⟩ := Nat.exists_eq_add_one_of_ne_zero hs
    have hk : binade ≤ k := hks.2.resolve_left hs
    rcases Nat.lt_or_eq_of_le hk with hk | rfl
    · -- No quotient below the power of two is among those of a magnitude above it.
      exfalso
      rw [units_pred hks (.inr hk), units_eq hks, ← Nat.add_mul, Nat.mul_assoc] at hlow
      have : (binade + binade + 1) * (2 ^ (r + 1) * b) ≤ (k - 1 + k) * (2 ^ (r + 1) * b) :=
        Nat.mul_le_mul_right _ (by omega)
      rw [Nat.add_mul, Nat.add_mul] at this
      have hB : 0 < 2 ^ (r + 1) * b := Nat.mul_pos (Nat.two_pow_pos _) hb
      omega
    · have hdouble : binade * (2 ^ (r + 1) * b) = 2 * binade * (2 ^ r * b) := by ring
      rw [units_pred_binade, units_eq hks, Nat.add_mul, Nat.mul_assoc, Nat.mul_assoc, hdouble,
        ← Nat.add_mul] at hlow
      rw [hdouble] at hlt
      exact nearest_eq_of_lt_binade hb hlow hlt

end Binary64

end Courier
