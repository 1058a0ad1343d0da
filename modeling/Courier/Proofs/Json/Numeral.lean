import Courier.Json.Reader
import Courier.Proofs.Number.Digits
import Mathlib.Data.List.TakeDrop

/-!
# Numbers in JSON texts

A number is written as a sign, the digits before the point, the digits after it and an exponent, of
which all but the second may be missing. The reader takes such a text off the beginning of a longer
one whenever what follows cannot be a part of the number. What the writers produce for integers is of
this form.
-/

namespace Courier

namespace Json

namespace Numeral

/-! ## The form of numbers -/

/-- A run of digits, with at least one digit. -/
structure IsDigits (t : Text) : Prop where
  ne_nil : t ≠ []
  isDigit : ∀ c ∈ t, c.isDigit = true

/-- A numeral whose parts are as the grammar wants them. -/
structure IsProper (n : Numeral) : Prop where
  whole : IsDigits n.whole
  leading_zero : n.whole.head? = some Text.zeroDigit → n.whole = [Text.zeroDigit]
  fraction : ∀ digits ∈ n.fraction, IsDigits digits
  sign : ∀ e ∈ n.exponent, ∀ c ∈ e.1, c = '+' ∨ c = '-'
  exponent : ∀ e ∈ n.exponent, IsDigits e.2

/-- The minus sign of a negative number. -/
def signText (negative : Bool) : Text := if negative then [CodePoint.ofChar '-'] else []

/-- The point and the digits after it. -/
def fractionText : Option Text → Text
  | none => []
  | some digits => CodePoint.ofChar '.' :: digits

/-- The exponent after its letter. -/
def exponentText (letter : CodePoint) : Option (Option CodePoint × Text) → Text
  | none => []
  | some (sign, digits) => letter :: (sign.toList ++ digits)

/-- The text of a numeral, with the given letter before its exponent. -/
def text (letter : CodePoint) (n : Numeral) : Text :=
  signText n.negative ++ (n.whole ++ (fractionText n.fraction ++ exponentText letter n.exponent))

/-- That a text does not go on with a part of a number. -/
def Ends (rest : Text) : Prop :=
  ∀ c ∈ rest.head?, c.isDigit = false ∧ c ≠ '.' ∧ c ≠ 'e' ∧ c ≠ 'E'

lemma IsDigits.exists_cons {t : Text} (h : IsDigits t) :
    ∃ c rest, t = c :: rest ∧ c.isDigit = true := by
  obtain ⟨c, rest, rfl⟩ := List.exists_cons_of_ne_nil h.ne_nil
  exact ⟨c, rest, rfl, h.isDigit c (by simp)⟩

/-- A number is made of digits and of a few marks. -/
lemma IsProper.forall_mem_text {n : Numeral} (h : n.IsProper) {letter : CodePoint}
    (hletter : letter = 'e' ∨ letter = 'E') {p : CodePoint → Prop}
    (hdigit : ∀ c : CodePoint, c.isDigit = true → p c) (hmark : ∀ c ∈ Text.ofString "+-.eE", p c) :
    ∀ c ∈ n.text letter, p c := by
  have hdigits : ∀ {t : Text}, IsDigits t → ∀ c ∈ t, p c := fun ht c hc => hdigit c (ht.isDigit c hc)
  have hsign : ∀ c ∈ signText n.negative, p c := by
    intro c hc
    cases hnegative : n.negative with
    | true =>
      rw [hnegative] at hc
      exact hmark c (List.mem_singleton.mp hc ▸ by decide)
    | false =>
      rw [hnegative] at hc
      cases hc
  have hfraction : ∀ c ∈ fractionText n.fraction, p c := by
    intro c hc
    cases hf : n.fraction with
    | none =>
      rw [hf] at hc
      cases hc
    | some digits =>
      rw [hf] at hc
      rcases List.mem_cons.mp hc with rfl | hc
      · exact hmark _ (by decide)
      · exact hdigits (h.fraction digits hf) c hc
  have hexponent : ∀ c ∈ exponentText letter n.exponent, p c := by
    intro c hc
    cases he : n.exponent with
    | none =>
      rw [he] at hc
      cases hc
    | some e =>
      rw [he] at hc
      rcases List.mem_cons.mp hc with rfl | hc
      · rcases hletter with rfl | rfl <;> exact hmark _ (by decide)
      · rcases List.mem_append.mp hc with hc | hc
        · rcases h.sign e he c (Option.mem_toList.mp hc) with rfl | rfl <;> exact hmark _ (by decide)
        · exact hdigits (h.exponent e he) c hc
  intro c hc
  rw [text, List.mem_append, List.mem_append, List.mem_append] at hc
  rcases hc with hc | hc | hc | hc
  · exact hsign c hc
  · exact hdigits h.whole c hc
  · exact hfraction c hc
  · exact hexponent c hc

lemma isDigits_ofNat (n : Nat) : IsDigits (Text.ofNat n) :=
  ⟨Text.ofNat_ne_nil n, fun _ h => Text.isDigit_of_mem_ofNat h⟩

/-- A number denotes an integer, which is short enough, or an inexact number. -/
lemma eq_of_toJson? {n : Numeral} {v : Json} (h : n.toJson? = some v) :
    (∃ i : Int, v = .int i ∧ i.natAbs = Text.digitsValue n.whole ∧ n.whole.length ≤ maxDigits) ∨
      ∃ x, v = .float x := by
  unfold toJson? at h
  split at h
  · split at h
    · next hlength =>
      cases h
      refine .inl ⟨_, rfl, ?_, hlength⟩
      split <;> omega
    · cases h
  · cases h
    exact .inr ⟨_, rfl⟩

/-! ## Reading -/

lemma ne_of_isDigit {c : CodePoint} (h : c.isDigit = true) {d : Char} (hd : d.isDigit = false) :
    c ≠ CodePoint.ofChar d := by
  rintro rfl
  rw [CodePoint.isDigit_ofChar, hd] at h
  exact Bool.false_ne_true h

lemma span_digits {digits rest : Text} (h : ∀ c ∈ digits, c.isDigit = true)
    (hrest : ∀ c ∈ rest.head?, c.isDigit = false) :
    (digits ++ rest).span CodePoint.isDigit = (digits, rest) := by
  rw [List.span_eq_takeWhile_dropWhile, List.takeWhile_append_of_pos h,
    List.dropWhile_append_of_pos h]
  cases rest with
  | nil => simp
  | cons c rest =>
    have hc := hrest c (by simp)
    simp [hc]

lemma readWhole_append {n : Numeral} (h : n.IsProper) {rest : Text}
    (hrest : ∀ c ∈ rest.head?, c.isDigit = false) :
    readWhole (n.whole ++ rest) = some (n.whole, rest) := by
  obtain ⟨c, digits, hwhole, hc⟩ := h.whole.exists_cons
  by_cases hzero : c = '0'
  · have hsingle := h.leading_zero (by rw [hwhole, hzero]; rfl)
    rw [hsingle]
    rfl
  · have hspan := span_digits h.whole.isDigit hrest
    rw [hwhole, List.cons_append] at hspan ⊢
    rw [readWhole, if_neg hzero, if_pos hc, hspan]

lemma readFraction_append {f : Option Text} (h : ∀ digits ∈ f, IsDigits digits) {rest : Text}
    (hrest : ∀ c ∈ rest.head?, c.isDigit = false ∧ c ≠ '.') :
    readFraction (fractionText f ++ rest) = (f, rest) := by
  cases f with
  | none =>
    cases rest with
    | nil => rfl
    | cons c rest =>
      rw [fractionText, List.nil_append, readFraction, if_neg (hrest c rfl).2]
  | some digits =>
    obtain ⟨c, tail, rfl, -⟩ := (h digits rfl).exists_cons
    have hspan := span_digits (h _ rfl).isDigit fun c hc => (hrest c hc).1
    rw [fractionText, List.cons_append, readFraction, if_pos rfl, hspan]

lemma readSign_append {sign : Option CodePoint} (h : ∀ c ∈ sign, c = '+' ∨ c = '-')
    {digits : Text} (hdigits : IsDigits digits) (rest : Text) :
    readSign (sign.toList ++ (digits ++ rest)) = (sign, digits ++ rest) := by
  cases sign with
  | none =>
    obtain ⟨c, tail, rfl, hc⟩ := hdigits.exists_cons
    have hne : ¬(c = '+' ∨ c = '-') := by
      rintro (rfl | rfl) <;> exact absurd hc (by decide)
    show readSign (c :: (tail ++ rest)) = _
    rw [readSign, if_neg hne]
    rfl
  | some c =>
    show readSign (c :: (digits ++ rest)) = _
    rw [readSign, if_pos (h c rfl)]

lemma readExponent_append {e : Option (Option CodePoint × Text)} {letter : CodePoint}
    (hletter : letter = 'e' ∨ letter = 'E') (hsign : ∀ p ∈ e, ∀ c ∈ p.1, c = '+' ∨ c = '-')
    (hdigits : ∀ p ∈ e, IsDigits p.2) {rest : Text} (hrest : Ends rest) :
    readExponent (exponentText letter e ++ rest) = (e, rest) := by
  cases e with
  | none =>
    cases rest with
    | nil => rfl
    | cons c rest =>
      obtain ⟨-, -, he, hE⟩ := hrest c rfl
      rw [exponentText, List.nil_append, readExponent, if_neg (not_or.mpr ⟨he, hE⟩)]
  | some p =>
    obtain ⟨sign, digits⟩ := p
    have hsigned := readSign_append (hsign _ rfl) (hdigits _ rfl) rest
    obtain ⟨c, tail, htail, -⟩ := (hdigits _ rfl).exists_cons
    have hspan := span_digits (hdigits _ rfl).isDigit fun c hc => (hrest c hc).1
    dsimp only at hsigned htail hspan
    rw [exponentText, List.cons_append, List.append_assoc, readExponent, if_pos hletter, hsigned]
    dsimp only
    rw [hspan, htail]

/-- What is left to read after the sign. -/
def readUnsigned (negative : Bool) (t : Text) : Option (Numeral × Text) := do
  let (whole, t) ← readWhole t
  let (fraction, t) := readFraction t
  let (exponent, t) := readExponent t
  return (⟨negative, whole, fraction, exponent⟩, t)

lemma read_signText (negative : Bool) {t : Text} (ht : ∀ c ∈ t.head?, c ≠ '-') :
    read (signText negative ++ t) = readUnsigned negative t := by
  cases negative with
  | true => rfl
  | false =>
    cases t with
    | nil => rfl
    | cons c t =>
      have hc := ht c rfl
      show read (c :: t) = readUnsigned false (c :: t)
      unfold read readUnsigned
      simp only [if_neg hc]

/-- A proper numeral is read off the beginning of a text that does not go on with a part of a
number. -/
theorem read_append {n : Numeral} (h : n.IsProper) {letter : CodePoint}
    (hletter : letter = 'e' ∨ letter = 'E') {rest : Text} (hrest : Ends rest) :
    read (n.text letter ++ rest) = some (n, rest) := by
  have hexponent := readExponent_append hletter h.sign h.exponent hrest
  -- Neither an exponent nor what follows the number starts with a digit or a point.
  have hhead : ∀ c ∈ (exponentText letter n.exponent ++ rest).head?, c.isDigit = false ∧ c ≠ '.' := by
    cases n.exponent with
    | none =>
      intro c hc
      obtain ⟨hdigit, hpoint, -⟩ := hrest c hc
      exact ⟨hdigit, hpoint⟩
    | some p =>
      intro c hc
      obtain rfl : letter = c := by simpa [exponentText] using hc
      rcases hletter with rfl | rfl <;> decide
  have hfraction := readFraction_append h.fraction hhead
  have hhead' : ∀ c ∈ (fractionText n.fraction ++ (exponentText letter n.exponent ++ rest)).head?,
      c.isDigit = false := by
    cases n.fraction with
    | none => exact fun c hc => (hhead c hc).1
    | some digits =>
      intro c hc
      obtain rfl : CodePoint.ofChar '.' = c := by simpa [fractionText] using hc
      decide
  have hwhole := readWhole_append h hhead'
  have hminus : ∀ c ∈ (n.whole ++ (fractionText n.fraction ++
      (exponentText letter n.exponent ++ rest))).head?, c ≠ '-' := by
    obtain ⟨d, tail, htail, hd⟩ := h.whole.exists_cons
    rw [htail]
    intro c hc
    obtain rfl : d = c := by simpa using hc
    exact ne_of_isDigit hd (by decide)
  have hassoc : n.text letter ++ rest = signText n.negative ++ (n.whole ++
      (fractionText n.fraction ++ (exponentText letter n.exponent ++ rest))) := by
    simp [text]
  rw [hassoc, read_signText _ hminus, readUnsigned, hwhole]
  simp only [Option.bind_eq_bind, Option.bind_some, hfraction, hexponent]
  rfl

/-! ## The numerals of integers -/

/-- The numeral of an integer. -/
def ofInt (n : Int) : Numeral := ⟨decide (n < 0), Text.ofNat n.natAbs, none, none⟩

lemma isProper_ofInt (n : Int) : (ofInt n).IsProper where
  whole := isDigits_ofNat _
  leading_zero := by
    intro hhead
    by_cases hn : n.natAbs = 0
    · show Text.ofNat n.natAbs = [Text.zeroDigit]
      rw [hn, Text.ofNat_zero]
    · exact absurd hhead (Text.head?_ofNat_ne hn)
  fraction := by simp [ofInt]
  sign := by simp [ofInt]
  exponent := by simp [ofInt]

lemma text_ofInt (letter : CodePoint) (n : Int) : (ofInt n).text letter = Text.ofInt n := by
  by_cases hn : n < 0 <;>
    simp [text, ofInt, signText, fractionText, exponentText, Text.ofInt, hn]

lemma toJson?_ofInt {n : Int} (h : (Text.ofNat n.natAbs).length ≤ maxDigits) :
    (ofInt n).toJson? = some (.int n) := by
  simp only [ofInt, toJson?, if_pos h, Text.digitsValue_ofNat, decide_eq_true_eq]
  congr 2
  split <;> omega

/-- An integer with too many digits denotes nothing. -/
lemma toJson?_ofInt_eq_none {n : Int} (h : maxDigits < (Text.ofNat n.natAbs).length) :
    (ofInt n).toJson? = none := if_neg (Nat.not_le.mpr h)

end Numeral

end Json

end Courier
