import Courier.Proofs.Json.Encodable
import Courier.Url.Percent

/-!
# Percent encoding

Encoded text is made of code points that stand for themselves and of bytes, each a percent sign with
two digits in capital letters. A code point that stands for itself is its own byte, and the digits of a
byte give the byte again, so that the bytes of encoded text are the UTF-8 form of what was encoded.
-/

namespace Courier

namespace CodePoint

/-- One of the digits 0 to 9 and of the letters A to F. -/
def isHexUpper (c : CodePoint) : Bool := c.isDigit || (0x41 ≤ c.toNat && c.toNat ≤ 0x46)

lemma isHexUpper_hexUpper : ∀ n < 16, (hexUpper n).isHexUpper = true := by decide

lemma hexValue?_hexUpper : ∀ n < 16, (hexUpper n).hexValue? = some n := by decide

end CodePoint

namespace Percent

/-- The text that percent-encoded text denotes, if its bytes are well-formed UTF-8. -/
def decode? (t : Text) : Option Text := Utf8.decode? .refused (asciiBytes [] t)

/-! ## What occurs in encoded text -/

/-- Whether a code point may occur in encoded text: it stands for itself, or it opens a byte. -/
def isEncoded (c : CodePoint) : Bool := isUnreserved c || c = '%'

lemma isEncoded_of_mem_encodeByte {b : UInt8} {c : CodePoint} (h : c ∈ encodeByte b) :
    isEncoded c = true := by
  have hdigit : ∀ k < 16, isEncoded (CodePoint.hexUpper k) = true := by decide
  have hb := b.toNat_lt
  simp only [encodeByte, List.mem_cons, List.not_mem_nil, or_false] at h
  rcases h with rfl | rfl | rfl
  · decide
  · exact hdigit _ (by omega)
  · exact hdigit _ (by omega)

lemma isEncoded_of_mem_encodeCodePoint {c d : CodePoint} (h : d ∈ encodeCodePoint c) :
    isEncoded d = true := by
  unfold encodeCodePoint at h
  split at h
  · next hc =>
    obtain rfl := List.mem_singleton.1 h
    rw [isEncoded, hc, Bool.true_or]
  · obtain ⟨b, -, hb⟩ := List.mem_flatMap.1 h
    exact isEncoded_of_mem_encodeByte hb

lemma isEncoded_of_mem_encoded {t : Text} {c : CodePoint} (h : c ∈ t.flatMap encodeCodePoint) :
    isEncoded c = true := by
  obtain ⟨d, -, hd⟩ := List.mem_flatMap.1 h
  exact isEncoded_of_mem_encodeCodePoint hd

lemma notMem_encoded {c : CodePoint} (h : isEncoded c = false) (t : Text) :
    c ∉ t.flatMap encodeCodePoint := by
  intro hmem
  rw [isEncoded_of_mem_encoded hmem] at h
  cases h

lemma isGraphic_of_isUnreserved {c : CodePoint} (h : isUnreserved c = true) : c.IsGraphic := by
  simp only [isUnreserved, Bool.or_eq_true, CodePoint.isLetter, CodePoint.isDigit, Bool.and_eq_true,
    decide_eq_true_eq, List.any_eq_true] at h
  rcases h with (h | h) | ⟨mark, hmark, rfl⟩
  · exact ⟨by omega, by omega⟩
  · exact ⟨by omega, by omega⟩
  · have hmarks : marks.all (fun mark => (CodePoint.ofChar mark).IsGraphic) = true := by decide
    exact of_decide_eq_true (List.all_eq_true.mp hmarks mark hmark)

lemma isPlain_of_isUnreserved {c : CodePoint} (h : isUnreserved c = true) : c.IsPlain := by
  refine (isGraphic_of_isUnreserved h).isPlain fun hpipe => ?_
  obtain rfl : c = '|' := CodePoint.ofChar_inj_toNat hpipe
  exact absurd h (by decide)

lemma isGraphic_of_mem_encoded {t : Text} {c : CodePoint} (h : c ∈ t.flatMap encodeCodePoint) :
    c.IsGraphic := by
  have hc := isEncoded_of_mem_encoded h
  rw [isEncoded, Bool.or_eq_true, decide_eq_true_eq] at hc
  rcases hc with hc | rfl
  · exact isGraphic_of_isUnreserved hc
  · decide

lemma encode?_eq_none_iff {t : Text} : encode? t = none ↔ Text.hasSurrogate t = true := by
  unfold encode?
  cases Text.hasSurrogate t <;> simp

lemma encode?_eq_some_iff {t encoded : Text} : encode? t = some encoded ↔
    Text.hasSurrogate t = false ∧ t.flatMap encodeCodePoint = encoded := by
  unfold encode?
  cases Text.hasSurrogate t <;> simp

/-- A text without surrogates has an encoded form. -/
lemma encode?_eq_some {t : Text} (h : Text.hasSurrogate t = false) :
    encode? t = some (t.flatMap encodeCodePoint) :=
  encode?_eq_some_iff.2 ⟨h, rfl⟩

/-! ## The bytes of encoded text -/

section

variable {c : CodePoint} {t : Text}

/-- A code point other than a percent sign is a byte of its own, whatever follows it. -/
lemma asciiBytes_cons (h : c ≠ '%') (found : List UInt8) (rest : Text) :
    asciiBytes found (c :: rest) = asciiBytes (UInt8.ofNat c.toNat :: found) rest := by
  match rest with
  | [] | [_] => rfl
  | _ :: _ :: _ => rw [asciiBytes, if_neg h]

lemma asciiBytes_encodeByte (b : UInt8) (found : List UInt8) (rest : Text) :
    asciiBytes found (encodeByte b ++ rest) = asciiBytes (b :: found) rest := by
  have hb := b.toNat_lt
  have hbyte : UInt8.ofNat (16 * (b.toNat / 16) + b.toNat % 16) = b := by
    rw [Nat.div_add_mod, UInt8.ofNat_toNat]
  show asciiBytes found (CodePoint.ofChar '%' :: CodePoint.hexUpper (b.toNat / 16) ::
    CodePoint.hexUpper (b.toNat % 16) :: rest) = _
  rw [asciiBytes, if_pos rfl, CodePoint.hexValue?_hexUpper _ (by omega),
    CodePoint.hexValue?_hexUpper _ (by omega)]
  dsimp only
  rw [hbyte]

lemma asciiBytes_encodeBytes (bytes found : List UInt8) (rest : Text) :
    asciiBytes found (bytes.flatMap encodeByte ++ rest) =
      asciiBytes (bytes.reverse ++ found) rest := by
  induction bytes generalizing found with
  | nil => rfl
  | cons b bytes ih =>
    rw [List.flatMap_cons, List.append_assoc, asciiBytes_encodeByte, ih, List.reverse_cons,
      List.append_assoc]
    rfl

lemma asciiBytes_encodeCodePoint (c : CodePoint) (found : List UInt8) (rest : Text) :
    asciiBytes found (encodeCodePoint c ++ rest) = asciiBytes (c.utf8.reverse ++ found) rest := by
  unfold encodeCodePoint
  split
  · next hc =>
    have hne : c ≠ '%' := by
      rintro rfl
      exact absurd hc (by decide)
    have hutf8 : c.utf8 = [UInt8.ofNat c.toNat] := if_pos (isPlain_of_isUnreserved hc).1
    rw [hutf8]
    exact asciiBytes_cons hne found rest
  · exact asciiBytes_encodeBytes c.utf8 found rest

/-- The bytes of encoded text are those of the text. -/
theorem asciiBytes_encoded (t : Text) :
    asciiBytes [] (t.flatMap encodeCodePoint) = Utf8.encode t := by
  -- The induction runs over arbitrary bytes found before.
  have key : ∀ found, asciiBytes found (t.flatMap encodeCodePoint) =
      found.reverse ++ Utf8.encode t := by
    induction t with
    | nil =>
      intro found
      exact (List.append_nil _).symm
    | cons c t ih =>
      intro found
      have hcons : Utf8.encode (c :: t) = c.utf8 ++ Utf8.encode t := rfl
      rw [List.flatMap_cons, asciiBytes_encodeCodePoint, ih, hcons, List.reverse_append,
        List.reverse_reverse, List.append_assoc]
  exact key []

/-- Decoding undoes encoding. -/
theorem decode?_encoded (h : Text.hasSurrogate t = false) :
    decode? (t.flatMap encodeCodePoint) = some t := by
  rw [decode?, asciiBytes_encoded]
  exact Utf8.decode?_encode _ h

/-- Text in ASCII is one run. -/
lemma decode_of_isAscii (h : ∀ c ∈ t, c.isAscii = true) : decode t = decodeAscii t := by
  have hrun : t.foldr (fun c (parts : Text × Text) =>
      if c.isAscii then (c :: parts.1, parts.2) else ([], c :: (decodeAscii parts.1 ++ parts.2)))
      ([], []) = (t, []) := by
    induction t with
    | nil => rfl
    | cons c t ih =>
      rw [List.forall_mem_cons] at h
      rw [List.foldr_cons, ih h.2, if_pos h.1]
  rw [decode, hrun, List.append_nil]

/-- Decoding that takes every text undoes encoding as well. -/
theorem decode_of_encode? {encoded : Text} (h : encode? t = some encoded) : decode encoded = t := by
  obtain ⟨hsurrogate, rfl⟩ := encode?_eq_some_iff.1 h
  rw [decode_of_isAscii fun c hc => (isGraphic_of_mem_encoded hc).isAscii, decodeAscii,
    asciiBytes_encoded, Utf8.decode_encode hsurrogate]

end

end Percent

end Courier
