import Courier.Json.Reader
import Courier.Json.Writer
import Courier.Proofs.Number.Digits

/-!
# Strings in JSON texts

Between its quotes a string is a sequence of pieces: code points that stand for themselves, escapes
of one letter, and escapes of 16-bit units. What the pieces denote is the sequence of their code
points, except that the escape of a high surrogate and the escape of a low one right after it denote
one code point together. The reader reads every spelling of a string and the writer's strings are
such spellings.
-/

namespace Courier

namespace Json

/-! ## Spellings -/

/-- A code point of a string, and whether it is written as the escape of a unit. -/
structure Piece where
  point : CodePoint
  isUnit : Bool
deriving DecidableEq

/-- The spellings of a sequence of pieces. -/
inductive Spells : Text → List Piece → Prop
  | nil : Spells [] []
  | plain {c : CodePoint} {t : Text} {ps : List Piece} (hquote : c ≠ '"') (hslash : c ≠ '\\')
      (hcontrol : 0x20 ≤ c.toNat) (h : Spells t ps) : Spells (c :: t) (⟨c, false⟩ :: ps)
  | simple {e c : CodePoint} {t : Text} {ps : List Piece} (he : simpleEscape? e = some c)
      (h : Spells t ps) : Spells (CodePoint.ofChar '\\' :: e :: t) (⟨c, false⟩ :: ps)
  | unit {a b c d u : CodePoint} {t : Text} {ps : List Piece} (hu : unitOf? a b c d = some u)
      (h : Spells t ps) :
      Spells (CodePoint.ofChar '\\' :: CodePoint.ofChar 'u' :: a :: b :: c :: d :: t)
        (⟨u, true⟩ :: ps)

/-- Whether two neighbouring pieces are the halves of one code point. -/
def Piece.joins (p q : Piece) : Bool :=
  p.isUnit && p.point.isHighSurrogate && (q.isUnit && q.point.isLowSurrogate)

/-- The text that a sequence of pieces denotes. -/
def joined : List Piece → Text
  | [] => []
  | [p] => [p.point]
  | p :: q :: ps =>
    if p.joins q then CodePoint.ofPair p.point q.point :: joined ps
    else p.point :: joined (q :: ps)

lemma unitOf?_eq_some {a b c d u : CodePoint} (h : unitOf? a b c d = some u) :
    ∀ e ∈ [a, b, c, d], e.hexValue?.isSome = true := by
  obtain ⟨va, ha, h⟩ := Option.bind_eq_some_iff.mp h
  obtain ⟨vb, hb, h⟩ := Option.bind_eq_some_iff.mp h
  obtain ⟨vc, hc, h⟩ := Option.bind_eq_some_iff.mp h
  obtain ⟨vd, hd, -⟩ := Option.bind_eq_some_iff.mp h
  simp [ha, hb, hc, hd]

lemma joined_cons {p : Piece} (h : p.isUnit = false ∨ p.point.isHighSurrogate = false)
    (ps : List Piece) : joined (p :: ps) = p.point :: joined ps := by
  cases ps with
  | nil => rfl
  | cons q ps =>
    have hjoins : p.joins q = false := by
      rcases h with h | h <;> simp [Piece.joins, h]
    rw [joined, hjoins]
    rfl

lemma joined_cons_cons {p q : Piece} (h : q.isUnit = false ∨ q.point.isLowSurrogate = false)
    (ps : List Piece) : joined (p :: q :: ps) = p.point :: joined (q :: ps) := by
  have hjoins : p.joins q = false := by
    rcases h with h | h <;> simp [Piece.joins, h]
  rw [joined, hjoins]
  rfl

lemma joined_pair {p q : Piece} (h : p.joins q = true) (ps : List Piece) :
    joined (p :: q :: ps) = CodePoint.ofPair p.point q.point :: joined ps := by
  rw [joined, h]
  rfl

lemma Spells.append {s t : Text} {ps qs : List Piece} (hs : Spells s ps) (ht : Spells t qs) :
    Spells (s ++ t) (ps ++ qs) := by
  induction hs with
  | nil => exact ht
  | plain hquote hslash hcontrol _ ih => exact .plain hquote hslash hcontrol ih
  | simple he _ ih => exact .simple he ih
  | unit hu _ ih => exact .unit hu ih

/-! ## Reading -/

lemma isHighSurrogate_of_isLowSurrogate {c : CodePoint} (h : c.isLowSurrogate = true) :
    c.isHighSurrogate = false := by
  simp only [CodePoint.isLowSurrogate, CodePoint.isHighSurrogate, Bool.and_eq_true,
    decide_eq_true_eq, Bool.and_eq_false_iff, decide_eq_false_iff_not] at h ⊢
  omega

lemma simpleEscape?_u : simpleEscape? 'u' = none := by decide

lemma readString_quote (pending : Bool) (found rest : Text) :
    readString pending found (CodePoint.ofChar '"' :: rest) = some (found.reverse, rest) := by
  rw [readString.eq_def]
  exact if_pos rfl

lemma readString_plain {c : CodePoint} (hquote : c ≠ '"') (hslash : c ≠ '\\')
    (hcontrol : 0x20 ≤ c.toNat) (pending : Bool) (found t : Text) :
    readString pending found (c :: t) = readString false (c :: found) t := by
  rw [readString.eq_def]
  dsimp only
  rw [if_neg hquote, if_neg hslash, if_neg (Nat.not_lt.mpr hcontrol)]

lemma readString_simple {e c : CodePoint} (he : simpleEscape? e = some c) (pending : Bool)
    (found t : Text) :
    readString pending found (CodePoint.ofChar '\\' :: e :: t) = readString false (c :: found) t := by
  have hu : e ≠ 'u' := by
    rintro rfl
    rw [simpleEscape?_u] at he
    exact absurd he (by simp)
  rw [readString.eq_def]
  dsimp only
  rw [if_neg (by decide), if_pos rfl, if_neg hu, he]

lemma readString_unit {a b c d u : CodePoint} (hu : unitOf? a b c d = some u) (pending : Bool)
    (found t : Text) :
    readString pending found
        (CodePoint.ofChar '\\' :: CodePoint.ofChar 'u' :: a :: b :: c :: d :: t) =
      readString u.isHighSurrogate (pushUnit pending found u) t := by
  rw [readString.eq_def]
  dsimp only
  rw [if_neg (by decide), if_pos rfl, if_pos rfl, hu]

/-- That the reader takes the rest of a string for given pieces. A high surrogate that was written as
an escape just before is still to be joined when its low surrogate comes next. -/
structure ReadsPieces (t : Text) (ps : List Piece) (rest : Text) : Prop where
  usual : ∀ found, readString false found t = some (found.reverse ++ joined ps, rest)
  pending : ∀ found high, high.isHighSurrogate = true →
    readString true (high :: found) t = some (found.reverse ++ joined (⟨high, true⟩ :: ps), rest)

section

variable {t t' rest : Text} {ps : List Piece}

lemma readsPieces_nil (rest : Text) : ReadsPieces (CodePoint.ofChar '"' :: rest) [] rest where
  usual := by
    intro found
    rw [readString_quote, joined, List.append_nil]
  pending := by
    intro found high _
    rw [readString_quote, joined, List.reverse_cons]

/-- A piece that is not the escape of a unit comes after all that was read. -/
lemma ReadsPieces.point (h : ReadsPieces t ps rest) {c : CodePoint}
    (hstep : ∀ pending found, readString pending found t' = readString false (c :: found) t) :
    ReadsPieces t' (⟨c, false⟩ :: ps) rest where
  usual := by
    intro found
    rw [hstep, h.usual, joined_cons (.inl rfl), List.reverse_cons, List.append_assoc]
    rfl
  pending := by
    intro found high _
    rw [hstep, h.usual, joined_cons_cons (.inl rfl), joined_cons (.inl rfl), List.reverse_cons,
      List.reverse_cons, List.append_assoc, List.append_assoc]
    rfl

/-- The escape of a unit may join the one before it, and waits for the one after it if it is a high
surrogate. -/
lemma ReadsPieces.unit (h : ReadsPieces t ps rest) {u : CodePoint}
    (hstep : ∀ pending found,
      readString pending found t' = readString u.isHighSurrogate (pushUnit pending found u) t) :
    ReadsPieces t' (⟨u, true⟩ :: ps) rest := by
  -- What the reader does after a unit that joined no high surrogate before it.
  have hafter : ∀ found, readString u.isHighSurrogate (u :: found) t =
      some (found.reverse ++ joined (⟨u, true⟩ :: ps), rest) := by
    intro found
    cases hhigh : u.isHighSurrogate with
    | true => exact h.pending found u hhigh
    | false =>
      rw [h.usual, joined_cons (.inr hhigh), List.reverse_cons, List.append_assoc]
      rfl
  constructor
  · intro found
    have hpush : pushUnit false found u = u :: found := by cases found <;> rfl
    rw [hstep, hpush, hafter]
  · intro found high hhigh
    rw [hstep]
    cases hlow : u.isLowSurrogate with
    | true =>
      have hjoins : Piece.joins ⟨high, true⟩ ⟨u, true⟩ = true := by
        simp [Piece.joins, hhigh, hlow]
      have hpush : pushUnit true (high :: found) u = CodePoint.ofPair high u :: found := by
        simp [pushUnit, hlow]
      rw [isHighSurrogate_of_isLowSurrogate hlow, hpush, h.usual, joined_pair hjoins,
        List.reverse_cons, List.append_assoc]
      rfl
    | false =>
      have hpush : pushUnit true (high :: found) u = u :: high :: found := by
        simp [pushUnit, hlow]
      rw [hpush, hafter, joined_cons_cons (.inr hlow), List.reverse_cons, List.append_assoc]
      rfl

end

/-- The reader reads a spelling up to the quote after it. -/
lemma readsPieces_of_spells {t : Text} {ps : List Piece} (h : Spells t ps) (rest : Text) :
    ReadsPieces (t ++ CodePoint.ofChar '"' :: rest) ps rest := by
  induction h with
  | nil => exact readsPieces_nil rest
  | plain hquote hslash hcontrol _ ih =>
    exact ih.point fun pending found => readString_plain hquote hslash hcontrol pending found _
  | simple he _ ih => exact ih.point fun pending found => readString_simple he pending found _
  | unit hu _ ih => exact ih.unit fun pending found => readString_unit hu pending found _

/-- The reader gives the text that a spelling denotes. -/
theorem readString_eq {t : Text} {ps : List Piece} (h : Spells t ps) (rest : Text) :
    readString false [] (t ++ CodePoint.ofChar '"' :: rest) = some (joined ps, rest) :=
  (readsPieces_of_spells h rest).usual []

/-! ## Writing -/

/-- Whether a style writes a code point below U+10000 as the escape of a unit. -/
def Style.escapesUnit (style : Style) (c : CodePoint) : Bool :=
  (decide (c.toNat < 0x20) && !([0x08, 0x09, 0x0A, 0x0C, 0x0D].contains c.toNat)) ||
    (style.ascii && decide (0x7F ≤ c.toNat))

/-- The pieces in which a style writes a code point. -/
def Style.pieces (style : Style) (c : CodePoint) : List Piece :=
  if style.ascii && decide (0x10000 ≤ c.toNat) then [⟨c.toPair.1, true⟩, ⟨c.toPair.2, true⟩]
  else [⟨c, style.escapesUnit c⟩]

lemma hexValue?_hexLower : ∀ k < 16, (CodePoint.hexLower k).hexValue? = some k := by decide

lemma spells_unitEscape {c : CodePoint} (h : c.toNat < 0x10000) :
    Spells (unitEscape c) [⟨c, true⟩] := by
  refine .unit ?_ .nil
  have hdigit : ∀ n, (CodePoint.hexLower (n % 16)).hexValue? = some (n % 16) := fun n =>
    hexValue?_hexLower _ (Nat.mod_lt _ (by decide))
  have hvalue : 0x1000 * (c.toNat / Nat.pow 16 3 % 16) + 0x100 * (c.toNat / Nat.pow 16 2 % 16) +
      0x10 * (c.toNat / Nat.pow 16 1 % 16) + c.toNat / Nat.pow 16 0 % 16 = c.toNat := by
    show 0x1000 * (c.toNat / 4096 % 16) + 0x100 * (c.toNat / 256 % 16) +
      0x10 * (c.toNat / 16 % 16) + c.toNat / 1 % 16 = c.toNat
    omega
  have hpoint : CodePoint.ofNat c.toNat = c := by
    simp [CodePoint.ofNat, c.isLt]
  unfold unitOf?
  simp only [hdigit, Option.bind_eq_bind, Option.bind_some, hvalue, hpoint]
  rfl

lemma toNat_toPair {c : CodePoint} (h : 0x10000 ≤ c.toNat) :
    c.toPair.1.toNat = 0xD800 + (c.toNat - 0x10000) / 0x400 ∧
      c.toPair.2.toNat = 0xDC00 + (c.toNat - 0x10000) % 0x400 := by
  have hlt := c.isLt
  unfold CodePoint.toPair
  dsimp only
  rw [CodePoint.toNat_ofNat (by omega), CodePoint.toNat_ofNat (by omega)]
  exact ⟨rfl, rfl⟩

lemma pieces_of_lt {style : Style} {c : CodePoint} (h : c.toNat < 0x7F) :
    style.pieces c = [⟨c, decide (c.toNat < 0x20) &&
      !([0x08, 0x09, 0x0A, 0x0C, 0x0D].contains c.toNat)⟩] := by
  have hwide : ¬0x10000 ≤ c.toNat := by omega
  have hascii : ¬0x7F ≤ c.toNat := by omega
  simp [Style.pieces, Style.escapesUnit, hwide, hascii]

/-- A code point with an escape of one letter. -/
lemma spells_simple (style : Style) {e : CodePoint} {n : Nat} (hn : n < 0x7F)
    (he : simpleEscape? e = some (CodePoint.ofNat n))
    (hunit : (decide (n < 0x20) && !([0x08, 0x09, 0x0A, 0x0C, 0x0D].contains n)) = false)
    {c : CodePoint} (hc : c.toNat = n) :
    Spells [CodePoint.ofChar '\\', e] (style.pieces c) := by
  have hpoint : c = CodePoint.ofNat n :=
    CodePoint.ofChar_inj_toNat (by rw [hc, CodePoint.toNat_ofNat (by omega)])
  rw [pieces_of_lt (by omega), hc, hunit]
  exact .simple (hpoint ▸ he) .nil

/-- A code point is written as its pieces say. -/
lemma spells_writeCodePoint (style : Style) (c : CodePoint) :
    Spells (writeCodePoint style c) (style.pieces c) := by
  unfold writeCodePoint
  by_cases hquote : c = '"'
  · rw [if_pos hquote]
    exact spells_simple style (n := 0x22) (by decide) (by decide) (by decide) (by rw [hquote]; rfl)
  rw [if_neg hquote]
  by_cases hslash : c = '\\'
  · rw [if_pos hslash]
    exact spells_simple style (n := 0x5C) (by decide) (by decide) (by decide) (by rw [hslash]; rfl)
  rw [if_neg hslash]
  by_cases hb : c.toNat = 0x08
  · rw [if_pos hb]
    exact spells_simple style (by decide) (by decide) (by decide) hb
  rw [if_neg hb]
  by_cases ht : c.toNat = 0x09
  · rw [if_pos ht]
    exact spells_simple style (by decide) (by decide) (by decide) ht
  rw [if_neg ht]
  by_cases hn : c.toNat = 0x0A
  · rw [if_pos hn]
    exact spells_simple style (by decide) (by decide) (by decide) hn
  rw [if_neg hn]
  by_cases hf : c.toNat = 0x0C
  · rw [if_pos hf]
    exact spells_simple style (by decide) (by decide) (by decide) hf
  rw [if_neg hf]
  by_cases hr : c.toNat = 0x0D
  · rw [if_pos hr]
    exact spells_simple style (by decide) (by decide) (by decide) hr
  rw [if_neg hr]
  by_cases hcontrol : c.toNat < 0x20
  · have hunit : (decide (c.toNat < 0x20) && !([0x08, 0x09, 0x0A, 0x0C, 0x0D].contains c.toNat)) =
        true := by
      simp [hcontrol, hb, ht, hn, hf, hr]
    rw [if_pos hcontrol, pieces_of_lt (by omega), hunit]
    exact spells_unitEscape (by omega)
  rw [if_neg hcontrol]
  by_cases hascii : (style.ascii && decide (0x7F ≤ c.toNat)) = true
  · rw [if_pos hascii]
    obtain ⟨hstyle, -⟩ := Bool.and_eq_true_iff.mp hascii
    by_cases hwide : c.toNat < 0x10000
    · have hunit : style.escapesUnit c = true := by
        rw [Style.escapesUnit, hascii, Bool.or_true]
      rw [if_pos hwide, Style.pieces, if_neg (by simp [hwide]), hunit]
      exact spells_unitEscape hwide
    · -- The two surrogates are escaped one after the other.
      have hlt := c.isLt
      obtain ⟨hhigh, hlow⟩ := toNat_toPair (Nat.not_lt.mp hwide)
      rw [if_neg hwide, Style.pieces, if_pos (by simp [hstyle, Nat.not_lt.mp hwide])]
      exact (spells_unitEscape (by omega)).append (spells_unitEscape (by omega))
  · -- Such a code point stands for itself.
    have hnot : (style.ascii && decide (0x7F ≤ c.toNat)) = false := by simpa using hascii
    have hwide : (style.ascii && decide (0x10000 ≤ c.toNat)) = false := by
      rw [Bool.and_eq_false_iff, decide_eq_false_iff_not] at hnot ⊢
      rcases hnot with hnot | hnot
      · exact .inl hnot
      · exact .inr (by omega)
    have hunit : style.escapesUnit c = false := by
      simp only [Style.escapesUnit, hnot, hcontrol, decide_false, Bool.false_and, Bool.or_false]
    rw [if_neg hascii, Style.pieces, if_neg (by simp [hwide]), hunit]
    exact .plain hquote hslash (Nat.not_lt.mp hcontrol) .nil

lemma spells_flatMap (style : Style) (s : Text) :
    Spells (s.flatMap (writeCodePoint style)) (s.flatMap style.pieces) := by
  induction s with
  | nil => exact .nil
  | cons c s ih =>
    rw [List.flatMap_cons, List.flatMap_cons]
    exact (spells_writeCodePoint style c).append ih

/-- In a style that is not confined to ASCII no surrogate is written as an escape. -/
lemma joined_flatMap_pieces {style : Style} (h : style.ascii = false) (s : Text) :
    joined (s.flatMap style.pieces) = s := by
  induction s with
  | nil => rfl
  | cons c s ih =>
    have hpieces : style.pieces c = [⟨c, style.escapesUnit c⟩] := by simp [Style.pieces, h]
    -- Only control characters are escaped, and these are no surrogates.
    have hunit : style.escapesUnit c = false ∨ c.isHighSurrogate = false := by
      by_cases hcontrol : c.toNat < 0x20
      · right
        simp only [CodePoint.isHighSurrogate, Bool.and_eq_false_iff, decide_eq_false_iff_not]
        omega
      · left
        simp [Style.escapesUnit, h, hcontrol]
    rw [List.flatMap_cons, hpieces, List.singleton_append, joined_cons hunit, ih]

end Json

end Courier
