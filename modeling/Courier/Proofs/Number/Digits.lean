import Courier.Number.Numeral
import Mathlib.Tactic.Common
import Mathlib.Tactic.IntervalCases
import Mathlib.Tactic.Ring

/-!
# Digits and their value

The value of a run of digits is additive in the obvious way, and the digits of a natural number have
that number as their value. These facts are all that the readers of numbers need to know about the
numerals that the writers produce.
-/

namespace Courier

namespace CodePoint

lemma ofChar_inj_toNat {c d : CodePoint} (h : c.toNat = d.toNat) : c = d := by
  cases c
  cases d
  simpa using h

@[simp] lemma isDigit_ofChar (c : Char) : (ofChar c).isDigit = c.isDigit := by
  simp only [isDigit, toNat_ofChar, Char.isDigit, Char.toNat, UInt32.le_iff_toNat_le]
  rfl

end CodePoint

namespace Text

/-- The code point `0`. -/
abbrev zeroDigit : CodePoint := CodePoint.ofChar '0'

@[simp] lemma digitsValue_nil : digitsValue [] = 0 := rfl

lemma digitsValue_append (a b : Text) :
    digitsValue (a ++ b) = digitsValue a * 10 ^ b.length + digitsValue b := by
  -- The induction runs over an arbitrary value read so far.
  have key : ∀ (b : Text) (n : Nat), b.foldl (fun n c => 10 * n + (c.toNat - 0x30)) n =
      n * 10 ^ b.length + digitsValue b := by
    intro b
    induction b with
    | nil => simp
    | cons c b ih =>
      intro n
      have hcons : digitsValue (c :: b) = (c.toNat - 0x30) * 10 ^ b.length + digitsValue b := by
        rw [digitsValue, List.foldl_cons, ih, Nat.mul_zero, Nat.zero_add]
      rw [List.foldl_cons, ih, hcons, List.length_cons, pow_succ]
      ring
  rw [digitsValue, List.foldl_append, key]
  rfl

lemma digitsValue_lt {digits : Text} (h : ∀ c ∈ digits, c.isDigit = true) :
    digitsValue digits < 10 ^ digits.length := by
  induction digits with
  | nil => simp
  | cons c digits ih =>
    have hc : c.toNat - 0x30 ≤ 9 := by
      have := h c (by simp)
      simp only [CodePoint.isDigit, Bool.and_eq_true, decide_eq_true_eq] at this
      omega
    have hvalue : digitsValue [c] = c.toNat - 0x30 := by simp [digitsValue]
    have hlt := ih fun d hd => h d (by simp [hd])
    rw [← List.singleton_append, digitsValue_append, hvalue, List.length_append, pow_add]
    have hmul : (c.toNat - 0x30) * 10 ^ digits.length ≤ 9 * 10 ^ digits.length :=
      Nat.mul_le_mul_right _ hc
    simp only [List.length_singleton, pow_one]
    omega

@[simp] lemma digitsValue_replicate_zero (n : Nat) :
    digitsValue (List.replicate n zeroDigit) = 0 := by
  induction n with
  | zero => rfl
  | succ n ih =>
    rw [List.replicate_succ', digitsValue_append, ih]
    simp [digitsValue]

@[simp] lemma ofNat_ne_nil (n : Nat) : ofNat n ≠ [] := by
  simp [ofNat]

lemma isDigit_of_mem_ofNat {n : Nat} {c : CodePoint} (h : c ∈ ofNat n) : c.isDigit = true := by
  obtain ⟨d, hd, rfl⟩ := List.mem_map.1 h
  simpa using Nat.isDigit_of_mem_toDigits (by decide) (by decide) hd

/-- The digits of a number have it as their value. -/
@[simp] lemma digitsValue_ofNat (n : Nat) : digitsValue (ofNat n) = n := by
  have h : digitsValue (ofNat n) = Nat.ofDigitChars 10 (Nat.toDigits 10 n) 0 := by
    simp [digitsValue, ofNat, Nat.ofDigitChars_eq_foldl, List.foldl_map]
  rw [h, Nat.ofDigitChars_ten_toDigits]

/-- Only zero is written with a leading zero. -/
lemma head?_ofNat_ne {n : Nat} (h : n ≠ 0) : (ofNat n).head? ≠ some zeroDigit := by
  induction n using Nat.strongRecOn with
  | _ n ih =>
    by_cases hlt : n < 10
    · rw [ofNat, Nat.toDigits_of_lt_base hlt]
      interval_cases n <;> first | exact absurd rfl h | decide
    · have hne : n / 10 ≠ 0 := by omega
      have hsplit : ofNat n = ofNat (n / 10) ++ [CodePoint.ofChar (n % 10).digitChar] := by
        rw [ofNat, Nat.toDigits_of_base_le (by decide) (by omega), List.map_append]
        rfl
      obtain ⟨c, digits, hc⟩ := List.exists_cons_of_ne_nil (ofNat_ne_nil (n / 10))
      have hhead := ih (n / 10) (by omega) hne
      rw [hc] at hhead
      simpa [hsplit, hc] using hhead

lemma ofNat_zero : ofNat 0 = [zeroDigit] := by decide

end Text

end Courier
