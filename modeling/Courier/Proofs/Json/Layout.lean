import Courier.Proofs.Json.Numeral
import Courier.Proofs.Number.Shortest

/-!
# The layout of numbers

A finite double precision number is written as the shortest decimal that reads back to it, laid out
with a point, an exponent or both. This file shows that every layout is a numeral of the form that
the reader takes, whose digits and exponent denote the decimal, so that the reader gives back the
number that was written.
-/

namespace Courier

namespace Json

namespace Numeral

open Binary64 (layOut writeExponent)

/-! ## Decimals and their layouts -/

/-- The decimal that a numeral is written with. -/
def decimal (n : Numeral) : Decimal where
  digits := Text.digitsValue (n.whole ++ n.fraction.getD [])
  exponent := exponentValue n.exponent - (n.fraction.getD []).length

/-- That a numeral is the layout of a decimal, to which it may add zeros. -/
structure LaysOut (d : Decimal) (n : Numeral) : Prop where
  proper : n.IsProper
  inexact : n.fraction.isSome = true ∨ n.exponent.isSome = true
  text_eq : n.text 'e' = signText n.negative ++ layOut d
  decimal_eq : ∃ k : Nat, n.decimal = ⟨d.digits * 10 ^ k, d.exponent - k⟩ ∧
    (k = 0 ∨ d.exponent - k = -1)

/-- The digits of an exponent, at least two of them. -/
def exponentDigits (e : Int) : Text :=
  let digits := Text.ofNat e.natAbs
  if digits.length < 2 then Text.zeroDigit :: digits else digits

/-- The sign of an exponent, which is always written. -/
def exponentSign (e : Int) : CodePoint := CodePoint.ofChar (if e < 0 then '-' else '+')

lemma writeExponent_eq (e : Int) : writeExponent e = exponentSign e :: exponentDigits e := rfl

lemma isDigits_exponentDigits (e : Int) : IsDigits (exponentDigits e) := by
  have hdigits := isDigits_ofNat e.natAbs
  unfold exponentDigits
  dsimp only
  split
  · refine ⟨by simp, ?_⟩
    intro c hc
    rcases List.mem_cons.mp hc with rfl | hc
    · decide
    · exact hdigits.isDigit c hc
  · exact hdigits

lemma digitsValue_exponentDigits (e : Int) : Text.digitsValue (exponentDigits e) = e.natAbs := by
  unfold exponentDigits
  dsimp only
  split
  · rw [← List.singleton_append, Text.digitsValue_append, Text.digitsValue_ofNat]
    simp [Text.digitsValue]
  · exact Text.digitsValue_ofNat _

lemma exponentValue_written (e : Int) :
    exponentValue (some (some (exponentSign e), exponentDigits e)) = e := by
  have hsign : some (exponentSign e) = some (CodePoint.ofChar '-') ↔ e < 0 := by
    unfold exponentSign
    split <;> simp_all
  simp only [exponentValue, digitsValue_exponentDigits, hsign]
  split <;> omega

lemma isDigit_of_mem_replicate {k : Nat} {c : CodePoint}
    (h : c ∈ List.replicate k Text.zeroDigit) : c.isDigit = true := by
  rw [List.eq_of_mem_replicate h]
  decide

lemma isProper_point {negative : Bool} {whole fraction : Text} (hwhole : IsDigits whole)
    (hzero : whole.head? = some Text.zeroDigit → whole = [Text.zeroDigit])
    (hfraction : IsDigits fraction) : IsProper ⟨negative, whole, some fraction, none⟩ where
  whole := hwhole
  leading_zero := hzero
  fraction := by
    intro digits hdigits
    obtain rfl : fraction = digits := by simpa using hdigits
    exact hfraction
  sign := by simp
  exponent := by simp

section

variable {d : Decimal} (negative : Bool)

/-- The power of ten of the leading digit. -/
def leading (d : Decimal) : Int := d.exponent + (Text.ofNat d.digits).length - 1

lemma layOut_scientific (h : leading d < -4 ∨ 16 ≤ leading d) {first : CodePoint} {rest : Text}
    (hdigits : Text.ofNat d.digits = first :: rest) :
    layOut d = [first] ++ (fractionText (if rest = [] then none else some rest) ++
      exponentText 'e' (some (some (exponentSign (leading d)), exponentDigits (leading d)))) := by
  unfold leading at *
  unfold layOut
  dsimp only
  rw [if_pos h, hdigits, writeExponent_eq]
  cases rest with
  | nil => rfl
  | cons c rest => rfl

lemma exists_laysOut_scientific (h : leading d < -4 ∨ 16 ≤ leading d) :
    ∃ n, LaysOut d n ∧ n.negative = negative := by
  -- There is a point only if there are digits to stand behind it.
  obtain ⟨first, rest, hdigits, hfirst⟩ := (isDigits_ofNat d.digits).exists_cons
  have hrest : ∀ c ∈ rest, c.isDigit = true := fun c hc =>
    Text.isDigit_of_mem_ofNat (n := d.digits) (by rw [hdigits]; exact List.mem_cons_of_mem _ hc)
  have hfraction : (if rest = [] then none else some rest).getD [] = rest := by
    by_cases hnil : rest = [] <;> simp [hnil]
  refine ⟨⟨negative, [first], if rest = [] then none else some rest,
    some (some (exponentSign (leading d)), exponentDigits (leading d))⟩, ⟨⟨?_, ?_, ?_, ?_, ?_⟩,
      .inr rfl, ?_, 0, ?_, .inl rfl⟩, rfl⟩
  · exact ⟨by simp, by simpa using hfirst⟩
  · intro hhead
    simpa using hhead
  · intro digits hd
    split at hd
    · exact absurd hd (by simp)
    · next hne =>
      obtain rfl : rest = digits := by simpa using hd
      exact ⟨hne, hrest⟩
  · intro e he c hc
    obtain rfl := Option.some.inj he
    obtain rfl := Option.some.inj hc
    unfold exponentSign
    split <;> simp
  · intro e he
    obtain rfl := Option.some.inj he
    exact isDigits_exponentDigits _
  · rw [layOut_scientific h hdigits]
    rfl
  · have hvalue : Text.digitsValue ([first] ++ rest) = d.digits := by
      rw [List.singleton_append, ← hdigits, Text.digitsValue_ofNat]
    have hlength : (Text.ofNat d.digits).length = rest.length + 1 := by rw [hdigits]; rfl
    simp only [decimal, hfraction, hvalue, exponentValue_written, leading, hlength, pow_zero,
      Nat.mul_one]
    congr 1
    omega

/-- The form `0.00ddd`. -/
lemma exists_laysOut_small (h : -4 ≤ leading d) (hneg : leading d < 0) :
    ∃ n, LaysOut d n ∧ n.negative = negative := by
  set zeros := List.replicate (-leading d - 1).toNat Text.zeroDigit with hzeros
  have hdigits : IsDigits (zeros ++ Text.ofNat d.digits) := by
    refine ⟨by simp, ?_⟩
    intro c hc
    rcases List.mem_append.mp hc with hc | hc
    · exact isDigit_of_mem_replicate hc
    · exact Text.isDigit_of_mem_ofNat hc
  have hlayout : layOut d = [Text.zeroDigit] ++ fractionText (some (zeros ++ Text.ofNat d.digits)) := by
    unfold leading at *
    unfold layOut
    dsimp only
    rw [if_neg (by omega), if_pos hneg]
    simp [fractionText, Text.ofString, hzeros]
  refine ⟨⟨negative, [Text.zeroDigit], some (zeros ++ Text.ofNat d.digits), none⟩,
    ⟨isProper_point ⟨by simp, by decide⟩ (fun _ => rfl) hdigits, .inl rfl, ?_, 0, ?_, .inl rfl⟩, rfl⟩
  · rw [hlayout]
    simp [text, exponentText]
  · have hvalue : Text.digitsValue ([Text.zeroDigit] ++ (zeros ++ Text.ofNat d.digits)) = d.digits := by
      rw [Text.digitsValue_append, Text.digitsValue_append, hzeros, Text.digitsValue_replicate_zero,
        Text.digitsValue_ofNat]
      simp [Text.digitsValue]
    simp only [decimal, Option.getD_some, hvalue, exponentValue, pow_zero, Nat.mul_one]
    congr 1
    rw [hzeros, List.length_append, List.length_replicate]
    unfold leading at *
    omega

/-- The form `ddd000.0`. -/
lemma exists_laysOut_whole (hd : d.digits ≠ 0) (h : leading d < 16) (hexp : 0 ≤ d.exponent) :
    ∃ n, LaysOut d n ∧ n.negative = negative := by
  set zeros := List.replicate d.exponent.toNat Text.zeroDigit with hzeros
  have hpos : 0 < (Text.ofNat d.digits).length :=
    List.length_pos_iff.mpr (Text.ofNat_ne_nil _)
  have hdigits : IsDigits (Text.ofNat d.digits ++ zeros) := by
    refine ⟨by simp, ?_⟩
    intro c hc
    rcases List.mem_append.mp hc with hc | hc
    · exact Text.isDigit_of_mem_ofNat hc
    · exact isDigit_of_mem_replicate hc
  have hzero : (Text.ofNat d.digits ++ zeros).head? ≠ some Text.zeroDigit := by
    obtain ⟨c, tail, htail⟩ := List.exists_cons_of_ne_nil (Text.ofNat_ne_nil d.digits)
    have hhead := Text.head?_ofNat_ne hd
    rw [htail] at hhead ⊢
    exact hhead
  have hlayout : layOut d = Text.ofNat d.digits ++ zeros ++ fractionText (some [Text.zeroDigit]) := by
    unfold leading at h
    unfold layOut
    dsimp only
    rw [if_neg (by omega), if_neg (by omega), if_pos hexp]
    simp [fractionText, Text.ofString, hzeros]
  refine ⟨⟨negative, Text.ofNat d.digits ++ zeros, some [Text.zeroDigit], none⟩,
    ⟨isProper_point hdigits (fun h => absurd h hzero) ⟨by simp, by decide⟩, .inl rfl, ?_,
      (d.exponent + 1).toNat, ?_, .inr (by omega)⟩, rfl⟩
  · rw [hlayout]
    simp [text, exponentText]
  · have hvalue : Text.digitsValue (Text.ofNat d.digits ++ zeros ++ [Text.zeroDigit]) =
        d.digits * 10 ^ (d.exponent + 1).toNat := by
      have hsucc : (d.exponent + 1).toNat = d.exponent.toNat + 1 := by omega
      rw [Text.digitsValue_append, Text.digitsValue_append, hzeros, Text.digitsValue_replicate_zero,
        Text.digitsValue_ofNat, List.length_replicate, hsucc, Nat.pow_succ]
      simp [Text.digitsValue, Nat.mul_assoc]
    simp only [decimal, Option.getD_some, hvalue, exponentValue, List.length_singleton]
    congr 1
    omega

/-- The form `dd.ddd`. -/
lemma exists_laysOut_mixed (hd : d.digits ≠ 0) (hnonneg : 0 ≤ leading d) (h : leading d < 16)
    (hexp : d.exponent < 0) : ∃ n, LaysOut d n ∧ n.negative = negative := by
  set whole := (Text.ofNat d.digits).take ((leading d).toNat + 1) with hwhole
  set fraction := (Text.ofNat d.digits).drop ((leading d).toNat + 1) with hfraction
  have hsplit : whole ++ fraction = Text.ofNat d.digits := List.take_append_drop _ _
  have hlength : fraction.length = (Text.ofNat d.digits).length - ((leading d).toNat + 1) :=
    List.length_drop
  -- The exponent is negative, so digits are left for the fraction.
  have hpos : 0 < fraction.length := by
    unfold leading at *
    omega
  have hne : whole ≠ [] := by
    rw [hwhole]
    simp
  have hzero : whole.head? ≠ some Text.zeroDigit := by
    rw [hwhole, List.head?_take, if_neg (Nat.succ_ne_zero _)]
    exact Text.head?_ofNat_ne hd
  have hdigit : ∀ c ∈ whole ++ fraction, c.isDigit = true := by
    rw [hsplit]
    exact fun c hc => Text.isDigit_of_mem_ofNat hc
  have hlayout : layOut d = whole ++ fractionText (some fraction) := by
    unfold layOut
    dsimp only
    show (if leading d < -4 ∨ 16 ≤ leading d then _ else if leading d < 0 then _ else
      if 0 ≤ d.exponent then _ else ((Text.ofNat d.digits).splitAt ((leading d).toNat + 1)).1 ++
        (CodePoint.ofChar '.' :: ((Text.ofNat d.digits).splitAt ((leading d).toNat + 1)).2)) = _
    rw [if_neg (by omega), if_neg (by omega), if_neg (by omega), List.splitAt_eq]
    rfl
  refine ⟨⟨negative, whole, some fraction, none⟩,
    ⟨isProper_point ⟨hne, ?_⟩ (fun h => absurd h hzero) ⟨?_, ?_⟩, .inl rfl, ?_, 0, ?_, .inl rfl⟩, rfl⟩
  · exact fun c hc => hdigit c (List.mem_append_left _ hc)
  · exact List.length_pos_iff.mp hpos
  · exact fun c hc => hdigit c (List.mem_append_right _ hc)
  · rw [hlayout]
    simp [text, exponentText]
  · simp only [decimal, Option.getD_some, hsplit, Text.digitsValue_ofNat, exponentValue, pow_zero,
      Nat.mul_one]
    congr 1
    unfold leading at *
    omega

/-- The layout of a decimal is a numeral with a point or an exponent. -/
lemma exists_laysOut (hd : d.digits ≠ 0) : ∃ n, LaysOut d n ∧ n.negative = negative := by
  by_cases hfar : leading d < -4 ∨ 16 ≤ leading d
  · exact exists_laysOut_scientific negative hfar
  · obtain ⟨hlow, hhigh⟩ := not_or.mp hfar
    by_cases hneg : leading d < 0
    · exact exists_laysOut_small negative (by omega) hneg
    · by_cases hexp : 0 ≤ d.exponent
      · exact exists_laysOut_whole negative hd (by omega) hexp
      · exact exists_laysOut_mixed negative hd (by omega) (by omega) (by omega)

end

/-! ## The value of a layout -/

lemma toJson?_of_inexact {n : Numeral} (h : n.fraction.isSome = true ∨ n.exponent.isSome = true) :
    n.toJson? = some (.float (Binary64.ofDecimal n.negative n.decimal.digits
      (n.whole.length + (n.fraction.getD []).length) n.decimal.exponent)) := by
  obtain ⟨negative, whole, fraction, exponent⟩ := n
  cases fraction with
  | some digits => rfl
  | none =>
    cases exponent with
    | some e => rfl
    | none => simp at h

lemma decimal_digits_lt {n : Numeral} (h : n.IsProper) :
    n.decimal.digits < 10 ^ (n.whole.length + (n.fraction.getD []).length) := by
  rw [← List.length_append]
  apply Text.digitsValue_lt
  intro c hc
  rcases List.mem_append.mp hc with hc | hc
  · exact h.whole.isDigit c hc
  · cases hfraction : n.fraction with
    | none =>
      rw [hfraction] at hc
      exact absurd hc (by simp)
    | some digits =>
      rw [hfraction] at hc
      exact (h.fraction digits hfraction).isDigit c hc

lemma toJson?_of_laysOut {d : Decimal} {n : Numeral} (h : LaysOut d n) {m : Nat} (hpos : 0 < m)
    (hm : m < 0x7FF0000000000000) (hd : d.ReadsAs m) :
    n.toJson? = some (.float (.finite n.negative ⟨m, hm⟩)) := by
  have hreads : n.decimal.ReadsAs m := by
    obtain ⟨k, hdecimal, hk⟩ := h.decimal_eq
    rw [hdecimal]
    apply hd.pad
    have hge := hd.exponent_ge
    unfold Decimal.shift at *
    rcases hk with rfl | hk <;> omega
  have hvalue : Binary64.ofDecimal n.negative n.decimal.digits
      (n.whole.length + (n.fraction.getD []).length) n.decimal.exponent =
        .finite n.negative ⟨m, hm⟩ :=
    Decimal.ReadsAs.ofDecimal_eq hpos hm hreads (decimal_digits_lt h.proper) n.negative
  rw [toJson?_of_inexact h.inexact, hvalue]

/-- What the writer writes for a finite number is a numeral that denotes the number. -/
theorem exists_write_finite (words : Binary64.Words) (negative : Bool)
    (m : Fin 0x7FF0000000000000) :
    ∃ n : Numeral, n.IsProper ∧ n.text 'e' = Binary64.write words (.finite negative m) ∧
      n.toJson? = some (.float (.finite negative m)) := by
  obtain ⟨m, hm⟩ := m
  have hwrite : Binary64.write words (.finite negative ⟨m, hm⟩) =
      signText negative ++ Binary64.writeMagnitude m := by
    cases negative <;> rfl
  rw [hwrite]
  by_cases hzero : m = 0
  · subst hzero
    refine ⟨⟨negative, [Text.zeroDigit], some [Text.zeroDigit], none⟩,
      isProper_point ⟨by simp, by decide⟩ (fun _ => rfl) ⟨by simp, by decide⟩, ?_, ?_⟩
    · rfl
    · rfl
  · have hpos : 0 < m := Nat.pos_of_ne_zero hzero
    have hreads := Decimal.shortest_readsAs hpos
    have hdigits : (Decimal.shortest m).digits ≠ 0 := Nat.ne_of_gt (hreads.mantissa_pos hpos)
    obtain ⟨n, hn, rfl⟩ := exists_laysOut negative hdigits
    refine ⟨n, hn.proper, ?_, toJson?_of_laysOut hn hpos hm hreads⟩
    rw [hn.text_eq, Binary64.writeMagnitude, if_neg hzero]

end Numeral

end Json

end Courier
