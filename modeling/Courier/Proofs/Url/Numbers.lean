import Courier.Proofs.Json.Layout
import Courier.Proofs.Number.Value
import Courier.Url.Query

/-!
# The texts of numbers

In a query string and in a header a number is written for its value, whichever kind of number it is: two
numbers have the same text if and only if they have the same value. A number that is an integer has the
numeral of the integer as its text. Any other one is inexact, and the text of an inexact number has a
point or an exponent, so that it is read as the number and never as an integer.
-/

namespace Courier

namespace Json

/-- The exact value of a number. -/
def number? : Json → Option ℚ
  | .int n => some n
  | .float x => x.value?
  | _ => none

/-! ## Numerals are read in one way -/

namespace Numeral

/-- A text is that of one numeral at most. -/
lemma eq_of_text_eq {n n' : Numeral} (hn : n.IsProper) (hn' : n'.IsProper)
    (h : n.text 'e' = n'.text 'e') : n = n' := by
  have hread : ∀ {n : Numeral}, n.IsProper → read (n.text 'e') = some (n, []) := by
    intro n hn
    have hends : Ends [] := by simp [Ends]
    simpa using read_append hn (.inl rfl) hends
  have hsame := hread hn
  rw [h, hread hn'] at hsame
  exact (Prod.mk.inj (Option.some.inj hsame)).1.symm

variable {words : Binary64.Words} {x y : Binary64} {p q : ℚ}

lemma exists_write_of_value? (words : Binary64.Words) (hx : x.value? = some p) :
    ∃ n : Numeral, n.IsProper ∧ n.text 'e' = x.write words ∧ n.toJson? = some (.float x) := by
  match x with
  | .finite negative m => exact exists_write_finite words negative m

/-- The writer writes different numbers differently. -/
lemma eq_of_write_eq (hx : x.value? = some p) (hy : y.value? = some q)
    (h : x.write words = y.write words) : x = y := by
  obtain ⟨n, hn, htext, hvalue⟩ := exists_write_of_value? words hx
  obtain ⟨n', hn', htext', hvalue'⟩ := exists_write_of_value? words hy
  obtain rfl := eq_of_text_eq hn hn' (by rw [htext, htext', h])
  rw [hvalue] at hvalue'
  exact Json.float.inj (Option.some.inj hvalue')

/-- The numeral of an inexact number is not that of an integer. -/
lemma write_ne_ofInt (hx : x.value? = some p) (k : Int) : x.write words ≠ Text.ofInt k := by
  intro h
  obtain ⟨n, hn, htext, hvalue⟩ := exists_write_of_value? words hx
  obtain rfl := eq_of_text_eq hn (isProper_ofInt k) (by rw [htext, text_ofInt, h])
  rcases Nat.lt_or_ge maxDigits (Text.ofNat k.natAbs).length with hlong | hshort
  · rw [toJson?_ofInt_eq_none hlong] at hvalue
    cases hvalue
  · rw [toJson?_ofInt hshort] at hvalue
    cases hvalue

lemma eq_of_ofInt_eq {k k' : Int} (h : Text.ofInt k = Text.ofInt k') : k = k' := by
  have hsame : ofInt k = ofInt k' :=
    eq_of_text_eq (isProper_ofInt k) (isProper_ofInt k') (by rw [text_ofInt, text_ofInt, h])
  obtain ⟨hnegative, hdigits, -⟩ := Numeral.mk.inj hsame
  have hsize : k.natAbs = k'.natAbs := by
    rw [← Text.digitsValue_ofNat k.natAbs, hdigits, Text.digitsValue_ofNat]
  rw [decide_eq_decide] at hnegative
  omega

end Numeral

/-! ## Integers and other numbers -/

section

variable {v w : Json} {p q : ℚ}

/-- A number that is an integer has the text of the integer, whichever kind of number it is. -/
lemma toText_of_integer {n : Int} (h : v.number? = some (n : ℚ)) : v.toText = Text.ofInt n := by
  match v with
  | .int k =>
    obtain rfl := Int.cast_injective (Option.some.inj h)
    rfl
  | .float x => rw [toText, Binary64.toInt?_eq_some_iff.mpr h]

/-- A number that is no integer is inexact, and written with its shortest decimal. -/
lemma exists_float_of_not_integer (h : v.number? = some p) (hp : ∀ n : Int, p ≠ n) :
    ∃ x, v = .float x ∧ x.value? = some p ∧ v.toText = x.write Binary64.plainWords := by
  match v with
  | .int n => exact absurd (Option.some.inj h).symm (hp n)
  | .float x =>
    refine ⟨x, rfl, h, ?_⟩
    rw [toText]
    cases hx : x.toInt? with
    | none => rfl
    | some n =>
      have hvalue := Binary64.toInt?_eq_some_iff.mp hx
      rw [show x.value? = some p from h] at hvalue
      exact absurd (Option.some.inj hvalue) (hp n)

lemma toText_eq_of_number?_eq (hv : v.number? = some p) (hw : w.number? = some p) :
    v.toText = w.toText := by
  by_cases hp : ∃ n : Int, p = n
  · obtain ⟨n, rfl⟩ := hp
    rw [toText_of_integer hv, toText_of_integer hw]
  · have hp := not_exists.mp hp
    obtain ⟨x, rfl, hx, -⟩ := exists_float_of_not_integer hv hp
    obtain ⟨y, rfl, hy, -⟩ := exists_float_of_not_integer hw hp
    have hzero : p ≠ 0 := by simpa using hp 0
    rw [Binary64.eq_of_value?_eq hx hy hzero]

lemma number?_eq_of_toText_eq (hv : v.number? = some p) (hw : w.number? = some q)
    (h : v.toText = w.toText) : p = q := by
  by_cases hp : ∃ n : Int, p = n <;> by_cases hq : ∃ n : Int, q = n
  · obtain ⟨n, rfl⟩ := hp
    obtain ⟨k, rfl⟩ := hq
    rw [toText_of_integer hv, toText_of_integer hw] at h
    rw [Numeral.eq_of_ofInt_eq h]
  · obtain ⟨n, rfl⟩ := hp
    obtain ⟨y, rfl, hy, htext⟩ := exists_float_of_not_integer hw (not_exists.mp hq)
    rw [toText_of_integer hv, htext] at h
    exact absurd h.symm (Numeral.write_ne_ofInt hy n)
  · obtain ⟨n, rfl⟩ := hq
    obtain ⟨x, rfl, hx, htext⟩ := exists_float_of_not_integer hv (not_exists.mp hp)
    rw [toText_of_integer hw, htext] at h
    exact absurd h (Numeral.write_ne_ofInt hx n)
  · obtain ⟨x, rfl, hx, hxtext⟩ := exists_float_of_not_integer hv (not_exists.mp hp)
    obtain ⟨y, rfl, hy, hytext⟩ := exists_float_of_not_integer hw (not_exists.mp hq)
    rw [hxtext, hytext] at h
    obtain rfl := Numeral.eq_of_write_eq hx hy h
    exact Option.some.inj (hx.symm.trans hy)

/-- **The text of a number is the text of its value**: numbers have the same text if and only if they
have the same value, and the text of one that is an integer is the numeral of the integer. There is no
sign on zero. -/
theorem toText_eq_toText_iff (hv : v.number? = some p) (hw : w.number? = some q) :
    (v.toText = w.toText ↔ p = q) ∧
      (∀ n : Int, p = n → v.toText = Text.ofInt n ∧ v.toText = (Json.int n).toText) ∧
        (p = 0 → v.toText = "0") := by
  refine ⟨⟨number?_eq_of_toText_eq hv hw, ?_⟩, ?_, ?_⟩
  · rintro rfl
    exact toText_eq_of_number?_eq hv hw
  · rintro n rfl
    exact ⟨toText_of_integer hv, toText_of_integer hv⟩
  · rintro rfl
    have hzero : v.number? = some ((0 : Int) : ℚ) := by simpa using hv
    rw [toText_of_integer hzero]
    decide

/-- The inexact number nearest to `10 ^ 23` is an integer, though not that one. -/
theorem toText_eq_toText_iff_nearest :
    let v : Json := .float (Binary64.ofDecimal false 1 1 23)
    let n : Int := 99999999999999991611392
    v.number? = some (n : ℚ) ∧ (Json.int n).number? = some (n : ℚ) ∧
      v.toText = (Json.int n).toText ∧ v.toText = "99999999999999991611392" := by
  have hinteger : (Binary64.ofDecimal false 1 1 23).toInt? = some 99999999999999991611392 := by
    decide +kernel
  generalize Binary64.ofDecimal false 1 1 23 = x at hinteger
  intro v n
  have hv : v.number? = some (n : ℚ) := Binary64.toInt?_eq_some_iff.mp hinteger
  have hw : (Json.int n).number? = some (n : ℚ) := rfl
  obtain ⟨hiff, htext, -⟩ := toText_eq_toText_iff hv hw
  refine ⟨hv, hw, hiff.mpr rfl, ?_⟩
  rw [(htext n rfl).1]
  decide +kernel

end

end Json

end Courier
