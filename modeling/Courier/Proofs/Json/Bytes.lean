import Courier.Json.Bytes
import Courier.Proofs.Json.Encodable
import Courier.Proofs.Json.Reading

/-!
# JSON texts in UTF-8

The encoding of a JSON text is found out from its bytes. A text begins with an ASCII character and no
U+0000 is in it, so its UTF-8 form has no byte order mark and no zeros, and is taken for what it is.
-/

namespace Courier

namespace CodePoint

lemma ne_zero_of_mem_utf8 {c : CodePoint} (h : c.toNat ≠ 0) {b : UInt8} (hb : b ∈ c.utf8) :
    b ≠ 0 := by
  have hlt := c.isLt
  have hbyte : ∀ k : Nat, k < 256 → k ≠ 0 → UInt8.ofNat k ≠ 0 := by
    intro k hk hne heq
    have hnat := Utf8.toNat_ofNat hk
    rw [heq] at hnat
    exact hne hnat.symm
  unfold utf8 at hb
  dsimp only at hb
  split at hb
  · rw [List.mem_singleton.mp hb]
    exact hbyte _ (by omega) h
  · split at hb
    · simp only [List.mem_cons, List.not_mem_nil, or_false] at hb
      rcases hb with rfl | rfl <;> exact hbyte _ (by omega) (by omega)
    · split at hb
      · simp only [List.mem_cons, List.not_mem_nil, or_false] at hb
        rcases hb with rfl | rfl | rfl <;> exact hbyte _ (by omega) (by omega)
      · simp only [List.mem_cons, List.not_mem_nil, or_false] at hb
        rcases hb with rfl | rfl | rfl | rfl <;> exact hbyte _ (by omega) (by omega)

end CodePoint

namespace Encoding

/-- A byte order mark does not begin with an ASCII character, and without zeros there is only one
encoding. -/
lemma detect_eq_utf8 {b : UInt8} {rest : List UInt8} (hascii : b.toNat < 0x80)
    (hzero : ∀ byte ∈ b :: rest, byte ≠ 0) : detect (b :: rest) = (.utf8, b :: rest) := by
  have hzeros : ofZeros (b :: rest) = .utf8 := by
    unfold ofZeros
    split
    · next x y h =>
      rw [h] at hzero
      rw [if_neg (hzero x (by simp)), if_neg (hzero y (by simp))]
    · next x y z t _ h =>
      rw [h] at hzero
      rw [if_neg (hzero x (by simp)), if_neg (hzero y (by simp))]
    · rfl
  unfold detect
  split
  · next h => exact absurd (List.head_eq_of_cons_eq h) (hzero b (by simp))
  · next h =>
    rw [List.head_eq_of_cons_eq h] at hascii
    exact absurd hascii (by decide)
  · next h =>
    rw [List.head_eq_of_cons_eq h] at hascii
    exact absurd hascii (by decide)
  · next h =>
    rw [List.head_eq_of_cons_eq h] at hascii
    exact absurd hascii (by decide)
  · next h =>
    rw [List.head_eq_of_cons_eq h] at hascii
    exact absurd hascii (by decide)
  · rw [hzeros]

lemma detect_encode {c : CodePoint} {t : Text} (hascii : c.toNat < 0x80)
    (hzero : ∀ d ∈ c :: t, d.toNat ≠ 0) :
    detect (Utf8.encode (c :: t)) = (.utf8, Utf8.encode (c :: t)) := by
  have hutf8 : c.utf8 = [UInt8.ofNat c.toNat] := if_pos hascii
  have hbytes : Utf8.encode (c :: t) = UInt8.ofNat c.toNat :: Utf8.encode t := by
    rw [Utf8.encode, List.flatMap_cons, hutf8]
    rfl
  have hne : ∀ b ∈ Utf8.encode (c :: t), b ≠ 0 := by
    intro b hb
    obtain ⟨d, hd, hb⟩ := List.mem_flatMap.mp hb
    exact CodePoint.ne_zero_of_mem_utf8 (hzero d hd) hb
  rw [hbytes] at hne ⊢
  refine detect_eq_utf8 ?_ hne
  rw [Utf8.toNat_ofNat (by omega)]
  exact hascii

end Encoding

namespace Json

section

variable {α : Type} {p : CodePoint → Prop}

/-- What holds of blanks, of the comma and of the code points of all items holds of all code points
of a list. -/
lemma Separated.forall_mem (hblank : ∀ c : CodePoint, c.isJsonBlank = true → p c) (hcomma : p ',')
    {t : Text} {vs : List α} (h : Separated (fun t _ => ∀ c ∈ t, p c) t vs) : ∀ c ∈ t, p c := by
  induction h with
  | last ha ht hb =>
    simp only [List.forall_mem_append]
    exact ⟨fun c hc => hblank c (ha c hc), ht, fun c hc => hblank c (hb c hc)⟩
  | cons ha ht hb _ ih =>
    simp only [List.forall_mem_append, List.forall_mem_cons]
    exact ⟨fun c hc => hblank c (ha c hc), ht, fun c hc => hblank c (hb c hc), hcomma, ih⟩

lemma Listed.forall_mem (hblank : ∀ c : CodePoint, c.isJsonBlank = true → p c) (hcomma : p ',')
    {opening closing : CodePoint} (hopening : p opening) (hclosing : p closing) {t : Text}
    {vs : List α} (h : Listed (fun t _ => ∀ c ∈ t, p c) opening closing t vs) : ∀ c ∈ t, p c := by
  cases h with
  | empty hb =>
    simp only [List.forall_mem_cons, List.forall_mem_append]
    exact ⟨hopening, fun c hc => hblank c (hb c hc), hclosing, by simp⟩
  | items hvs =>
    simp only [List.forall_mem_cons, List.forall_mem_append]
    exact ⟨hopening, hvs.forall_mem hblank hcomma, hclosing, by simp⟩

end

lemma ne_zero_of_isJsonBlank (c : CodePoint) (h : c.isJsonBlank = true) : c.toNat ≠ 0 := by
  simp only [CodePoint.isJsonBlank, Bool.or_eq_true, decide_eq_true_eq] at h
  omega

lemma ne_zero_of_isDigit (c : CodePoint) (h : c.isDigit = true) : c.toNat ≠ 0 := by
  simp only [CodePoint.isDigit, Bool.and_eq_true, decide_eq_true_eq] at h
  omega

lemma Spells.ne_zero {t : Text} {ps : List Piece} (h : Spells t ps) : ∀ c ∈ t, c.toNat ≠ 0 := by
  induction h with
  | nil => simp
  | plain _ _ hcontrol _ ih =>
    refine List.forall_mem_cons.mpr ⟨?_, ih⟩
    omega
  | @simple e c t ps he _ ih =>
    have hletter : e.toNat ≠ 0 := by
      intro hzero
      obtain rfl : e = CodePoint.ofNat 0 := CodePoint.ofChar_inj_toNat hzero
      have hnone : simpleEscape? (CodePoint.ofNat 0) = none := by decide
      rw [hnone] at he
      cases he
    simp only [List.forall_mem_cons]
    exact ⟨by decide, hletter, ih⟩
  | @unit a b c d u t ps hu _ ih =>
    have hdigit : ∀ e ∈ [a, b, c, d], e.toNat ≠ 0 := by
      intro e he hzero
      obtain rfl : e = CodePoint.ofNat 0 := CodePoint.ofChar_inj_toNat hzero
      exact absurd (unitOf?_eq_some hu _ he) (by decide)
    simp only [List.forall_mem_cons] at hdigit ⊢
    exact ⟨by decide, by decide, hdigit.1, hdigit.2.1, hdigit.2.2.1, hdigit.2.2.2.1, ih⟩

/-- A JSON text has no U+0000: control characters are escaped. -/
lemma IsValue.ne_zero {dialect : Dialect} {nesting : Nat} {t : Text} {v : Json}
    (h : IsValue dialect nesting t v) : ∀ c ∈ t, c.toNat ≠ 0 := by
  refine IsValue.of_forall_form (p := fun t _ => ∀ c ∈ t, c.toNat ≠ 0) ?_ h
  intro t v hform
  cases hform with
  | word hw =>
    have hnames : ∀ w ∈ (words .lenient).map (·.1), ∀ c ∈ Text.ofString w, c.toNat ≠ 0 := by decide
    exact hnames _ (mem_names hw)
  | number hn hletter _ =>
    exact hn.forall_mem_text hletter ne_zero_of_isDigit (by decide)
  | string hs =>
    simp only [List.forall_mem_cons, List.forall_mem_append]
    exact ⟨by decide, hs.ne_zero, by decide, by simp⟩
  | array hlist =>
    exact hlist.forall_mem ne_zero_of_isJsonBlank (by decide) (by decide) (by decide)
  | object hlist =>
    refine (hlist.mono ?_).forall_mem ne_zero_of_isJsonBlank (by decide) (by decide) (by decide)
    rintro t member ⟨hk, ha, hb, ht⟩
    simp only [List.forall_mem_cons, List.forall_mem_append]
    exact ⟨by decide, hk.ne_zero, by decide, fun c hc => ne_zero_of_isJsonBlank c (ha c hc),
      by decide, fun c hc => ne_zero_of_isJsonBlank c (hb c hc), ht⟩

lemma IsText.ne_zero {dialect : Dialect} {t : Text} {v : Json} (h : IsText dialect t v) :
    ∀ c ∈ t, c.toNat ≠ 0 := by
  obtain ⟨a, w, b, rfl, ha, hb, hw⟩ := h
  simp only [List.forall_mem_append]
  exact ⟨fun c hc => ne_zero_of_isJsonBlank c (ha c hc), hw.ne_zero,
    fun c hc => ne_zero_of_isJsonBlank c (hb c hc)⟩

/-- A value begins with an ASCII character. -/
lemma IsForm.exists_cons {dialect : Dialect} {inside : Option (Text → Json → Prop)} {t : Text}
    {v : Json} (h : IsForm dialect inside t v) : ∃ c rest, t = c :: rest ∧ c.toNat < 0x80 := by
  have hlisted : ∀ {α : Type} {item : Text → α → Prop} {opening closing : CodePoint} {t : Text}
      {vs : List α}, opening.toNat < 0x80 → Listed item opening closing t vs →
        ∃ c rest, t = c :: rest ∧ c.toNat < 0x80 := by
    intro α item opening closing t vs hopening hlist
    cases hlist <;> exact ⟨_, _, rfl, hopening⟩
  cases h with
  | word hw =>
    have hnames : ∀ w ∈ (words .lenient).map (·.1), ∀ c ∈ Text.ofString w, c.toNat < 0x80 := by
      decide
    obtain ⟨c, rest, hcons, -⟩ := (startsPlainly_word hw).exists_cons
    exact ⟨c, rest, hcons, hnames _ (mem_names hw) c (hcons ▸ List.mem_cons_self)⟩
  | number hn hletter _ =>
    obtain ⟨c, rest, hcons, -⟩ := (startsPlainly_number hn _).exists_cons
    refine ⟨c, rest, hcons, ?_⟩
    refine hn.forall_mem_text hletter (p := fun c => c.toNat < 0x80) ?_ (by decide) c
      (hcons ▸ List.mem_cons_self)
    exact fun c hc => (CodePoint.isPlain_of_isDigit hc).1
  | string _ => exact ⟨_, _, rfl, by decide⟩
  | array hlist => exact hlisted (by decide) hlist
  | object hlist => exact hlisted (by decide) hlist

lemma IsText.exists_cons {dialect : Dialect} {t : Text} {v : Json} (h : IsText dialect t v) :
    ∃ c rest, t = c :: rest ∧ c.toNat < 0x80 := by
  obtain ⟨a, w, b, rfl, ha, -, hw⟩ := h
  cases a with
  | nil =>
    obtain ⟨c, rest, rfl, hc⟩ := IsForm.exists_cons hw
    exact ⟨c, rest ++ b, rfl, hc⟩
  | cons c a =>
    have hblank := ha c List.mem_cons_self
    simp only [CodePoint.isJsonBlank, Bool.or_eq_true, decide_eq_true_eq] at hblank
    exact ⟨c, _, rfl, by omega⟩

/-- A text that begins with an ASCII character and has no U+0000 is read from its UTF-8 form. -/
lemma ofBytes?_encode_of_ascii {c : CodePoint} {t : Text} (hascii : c.toNat < 0x80)
    (hzero : ∀ d ∈ c :: t, d.toNat ≠ 0) (ht : Text.hasSurrogate (c :: t) = false) :
    ofBytes? (Utf8.encode (c :: t)) = read? .lenient (c :: t) := by
  rw [ofBytes?, Encoding.detect_encode hascii hzero]
  dsimp only [Encoding.decode?]
  rw [Utf8.decode?_encode _ ht, Option.bind_some]

/-- The value of a JSON text is read from its UTF-8 form. -/
theorem ofBytes?_encode {dialect : Dialect} {t : Text} {v : Json} (h : IsText dialect t v)
    (ht : Text.hasSurrogate t = false) : ofBytes? (Utf8.encode t) = some v := by
  obtain ⟨c, rest, rfl, hascii⟩ := h.exists_cons
  rw [ofBytes?_encode_of_ascii hascii h.ne_zero ht]
  exact read?_eq_some h.lenient

end Json

end Courier
