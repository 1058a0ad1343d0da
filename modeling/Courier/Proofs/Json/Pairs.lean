import Courier.Proofs.Json.Encodable
import Courier.Proofs.Json.Regular

/-!
# Surrogate pairs

In ASCII a code point above U+FFFF is written as the escapes of two surrogates, and two such escapes
are read as one code point. So a string is got back from what is written of it in ASCII if no high
surrogate stands before a low one in it; surrogates on their own do no harm. The strings of a JSON text
that has no surrogates itself are of this kind: a surrogate in them comes from an escape, and if it had
stood before its counterpart, the two would have been joined.
-/

namespace Courier

namespace CodePoint

lemma toNat_ofPair {high low : CodePoint} (hhigh : high.isHighSurrogate = true)
    (hlow : low.isLowSurrogate = true) :
    (ofPair high low).toNat = 0x10000 + (high.toNat - 0xD800) * 0x400 + (low.toNat - 0xDC00) := by
  simp only [isHighSurrogate, isLowSurrogate, Bool.and_eq_true, decide_eq_true_eq] at hhigh hlow
  exact toNat_ofNat (by omega)

lemma isHighSurrogate_toPair {c : CodePoint} (h : 0x10000 ≤ c.toNat) :
    c.toPair.1.isHighSurrogate = true := by
  have hlt := c.isLt
  obtain ⟨hhigh, -⟩ := Json.toNat_toPair h
  simp only [isHighSurrogate, hhigh, Bool.and_eq_true, decide_eq_true_eq]
  omega

lemma isLowSurrogate_toPair {c : CodePoint} (h : 0x10000 ≤ c.toNat) :
    c.toPair.2.isLowSurrogate = true := by
  obtain ⟨-, hlow⟩ := Json.toNat_toPair h
  simp only [isLowSurrogate, hlow, Bool.and_eq_true, decide_eq_true_eq]
  omega

/-- A code point is made up of its surrogates. -/
lemma ofPair_toPair {c : CodePoint} (h : 0x10000 ≤ c.toNat) : ofPair c.toPair.1 c.toPair.2 = c := by
  obtain ⟨hhigh, hlow⟩ := Json.toNat_toPair h
  refine ofChar_inj_toNat ?_
  rw [toNat_ofPair (isHighSurrogate_toPair h) (isLowSurrogate_toPair h), hhigh, hlow]
  omega

lemma isLowSurrogate_of_isHighSurrogate {c : CodePoint} (h : c.isHighSurrogate = true) :
    c.isLowSurrogate = false := by
  simp only [isHighSurrogate, isLowSurrogate, Bool.and_eq_true, decide_eq_true_eq,
    Bool.and_eq_false_iff, decide_eq_false_iff_not] at h ⊢
  omega

lemma isSurrogate_of_isHighSurrogate {c : CodePoint} (h : c.isHighSurrogate = true) :
    c.isSurrogate = true := by
  simp only [isHighSurrogate, isSurrogate, Bool.and_eq_true, decide_eq_true_eq] at h ⊢
  omega

lemma isSurrogate_of_isLowSurrogate {c : CodePoint} (h : c.isLowSurrogate = true) :
    c.isSurrogate = true := by
  simp only [isLowSurrogate, isSurrogate, Bool.and_eq_true, decide_eq_true_eq] at h ⊢
  omega

/-- What a pair stands for is no surrogate. -/
lemma isSurrogate_ofPair {high low : CodePoint} (hhigh : high.isHighSurrogate = true)
    (hlow : low.isLowSurrogate = true) : (ofPair high low).isSurrogate = false := by
  have hnat := toNat_ofPair hhigh hlow
  simp only [isSurrogate, hnat, Bool.and_eq_false_iff, decide_eq_false_iff_not]
  omega

end CodePoint

namespace Text

/-- Whether no high surrogate stands directly before a low one. -/
def isUnpaired : Text → Bool
  | high :: low :: t =>
    !(high.isHighSurrogate && low.isLowSurrogate) && isUnpaired (low :: t)
  | _ => true

lemma isUnpaired_cons {c : CodePoint} {t : Text} : isUnpaired (c :: t) = true ↔
    (c.isHighSurrogate = true → ∀ d ∈ t.head?, d.isLowSurrogate = false) ∧ isUnpaired t = true := by
  cases t with
  | nil => simp [isUnpaired]
  | cons d t =>
    have hhead : (∀ e ∈ (d :: t).head?, e.isLowSurrogate = false) ↔ d.isLowSurrogate = false := by
      simp
    rw [isUnpaired, Bool.and_eq_true, hhead]
    cases c.isHighSurrogate <;> simp

/-- A text without surrogates has no pair of them. -/
lemma isUnpaired_of_hasSurrogate {t : Text} (h : hasSurrogate t = false) : isUnpaired t = true := by
  rw [hasSurrogate_eq_false_iff] at h
  induction t with
  | nil => rfl
  | cons c t ih =>
    rw [List.forall_mem_cons] at h
    refine isUnpaired_cons.mpr ⟨fun hhigh => ?_, ih h.2⟩
    rw [CodePoint.isSurrogate_of_isHighSurrogate hhigh] at h
    exact absurd h.1 Bool.noConfusion

end Text

namespace Json

/-! ## Writing -/

/-- The first piece of a code point is a low surrogate only if the code point is one. -/
lemma exists_pieces_eq_cons (style : Style) (c : CodePoint) : ∃ p ps, style.pieces c = p :: ps ∧
    (p.point.isLowSurrogate = true → c.isLowSurrogate = true) := by
  unfold Style.pieces
  split
  · next h =>
    rw [Bool.and_eq_true, decide_eq_true_eq] at h
    refine ⟨_, _, rfl, fun hlow => ?_⟩
    rw [CodePoint.isLowSurrogate_of_isHighSurrogate (CodePoint.isHighSurrogate_toPair h.2)] at hlow
    exact absurd hlow Bool.noConfusion
  · exact ⟨_, _, rfl, id⟩

/-- A string without pairs is got back from its pieces in every style. -/
theorem joined_flatMap_pieces_of_isUnpaired (style : Style) {s : Text} (h : s.isUnpaired = true) :
    joined (s.flatMap style.pieces) = s := by
  induction s with
  | nil => rfl
  | cons c s ih =>
    obtain ⟨hnext, hs⟩ := Text.isUnpaired_cons.mp h
    rw [List.flatMap_cons]
    by_cases hwide : (style.ascii && decide (0x10000 ≤ c.toNat)) = true
    · -- The two surrogates of the code point are joined again.
      have hpieces : style.pieces c = [⟨c.toPair.1, true⟩, ⟨c.toPair.2, true⟩] := if_pos hwide
      rw [Bool.and_eq_true, decide_eq_true_eq] at hwide
      have hjoins : Piece.joins ⟨c.toPair.1, true⟩ ⟨c.toPair.2, true⟩ = true := by
        simp [Piece.joins, CodePoint.isHighSurrogate_toPair hwide.2,
          CodePoint.isLowSurrogate_toPair hwide.2]
      rw [hpieces, List.cons_append, List.cons_append, List.nil_append, joined_pair hjoins,
        CodePoint.ofPair_toPair hwide.2, ih hs]
    · have hpieces : style.pieces c = [⟨c, style.escapesUnit c⟩] := if_neg hwide
      rw [hpieces, List.singleton_append]
      cases hhigh : c.isHighSurrogate with
      | false => rw [joined_cons (.inr hhigh), ih hs]
      | true =>
        -- What comes next is not the second half of a pair.
        cases s with
        | nil => rfl
        | cons d s =>
          obtain ⟨p, ps, hp, hlow⟩ := exists_pieces_eq_cons style d
          have hd : d.isLowSurrogate = false := hnext hhigh d rfl
          have hpoint : p.point.isLowSurrogate = false := by
            by_contra hpoint
            rw [hlow (by simpa using hpoint)] at hd
            cases hd
          have ih := ih hs
          rw [List.flatMap_cons, hp, List.cons_append] at ih ⊢
          rw [joined_cons_cons (.inr hpoint), ih]

/-- The test of what every style keeps: strings without pairs and finite numbers. -/
def keepable : Test where
  key := Text.isUnpaired
  string := Text.isUnpaired
  float := Binary64.isFinite

lemma keeps_keepable (style : Style) : style.Keeps keepable :=
  ⟨fun _ h => joined_flatMap_pieces_of_isUnpaired style h,
    fun _ h => joined_flatMap_pieces_of_isUnpaired style h, fun _ h => h⟩

lemma isJson_spacedAscii : spacedAscii.IsJson :=
  ⟨⟨[CodePoint.ofChar ' '], isBlank_singleton (by decide), rfl⟩,
    ⟨[], [CodePoint.ofChar ' '], isBlank_nil, isBlank_singleton (by decide), rfl⟩⟩

lemma all_keepable_of_all_isUnpaired {v : Json}
    (h : v.all { key := Text.isUnpaired, string := Text.isUnpaired } = true)
    (hfinite : v.isFinite = true) : v.all keepable = true := by
  refine all_of_all ?_ ?_ ?_ h hfinite
  · intro _ hk _
    exact hk
  · intro _ hs _
    exact hs
  · intro _ _ hx
    exact hx

/-- What can be encoded and is finite is kept. -/
lemma all_keepable_of_isEncodable {v : Json} (h : v.isEncodable = true) (hfinite : v.isFinite = true) :
    v.all keepable = true := by
  refine all_keepable_of_all_isUnpaired (all_iff_forall_hasText.mpr fun s hs => ?_) hfinite
  exact Text.isUnpaired_of_hasSurrogate (isEncodable_iff.mp h s hs)

/-! ## Reading -/

lemma head?_joined_cons {p : Piece} {ps : List Piece} {c : CodePoint}
    (hc : c ∈ (joined (p :: ps)).head?) (hlow : c.isLowSurrogate = true) : c = p.point := by
  cases ps with
  | nil =>
    obtain rfl : p.point = c := by simpa [joined] using hc
    rfl
  | cons q ps =>
    by_cases hjoins : p.joins q = true
    · rw [joined_pair hjoins] at hc
      obtain rfl : CodePoint.ofPair p.point q.point = c := by simpa using hc
      simp only [Piece.joins, Bool.and_eq_true] at hjoins
      have hpair := CodePoint.isSurrogate_ofPair hjoins.1.2 hjoins.2.2
      rw [CodePoint.isSurrogate_of_isLowSurrogate hlow] at hpair
      cases hpair
    · rw [joined, if_neg hjoins] at hc
      obtain rfl : p.point = c := by simpa using hc
      rfl

/-- That surrogates are among the escaped units only. -/
def EscapesSurrogates (ps : List Piece) : Prop :=
  ∀ p ∈ ps, p.isUnit = false → p.point.isSurrogate = false

lemma isUnpaired_joined {ps : List Piece} (h : EscapesSurrogates ps) :
    (joined ps).isUnpaired = true := by
  induction ps using joined.induct with
  | case1 => rfl
  | case2 p => rfl
  | case3 p q ps hjoins ih =>
    rw [joined_pair hjoins, Text.isUnpaired_cons]
    refine ⟨fun hhigh => ?_, ih fun r hr => h r (by simp [hr])⟩
    simp only [Piece.joins, Bool.and_eq_true] at hjoins
    have hpair := CodePoint.isSurrogate_ofPair hjoins.1.2 hjoins.2.2
    rw [CodePoint.isSurrogate_of_isHighSurrogate hhigh] at hpair
    cases hpair
  | case4 p q ps hjoins ih =>
    rw [joined, if_neg hjoins, Text.isUnpaired_cons]
    refine ⟨fun hhigh c hc => ?_, ih fun r hr => h r (List.mem_cons_of_mem p hr)⟩
    by_contra hlow
    rw [Bool.not_eq_false] at hlow
    obtain rfl := head?_joined_cons hc hlow
    -- Two surrogates are two escapes, and a pair of these is joined.
    have hunit : ∀ r ∈ p :: q :: ps, r.point.isSurrogate = true → r.isUnit = true := by
      intro r hr hsurrogate
      by_contra hunit
      rw [h r hr (by simpa using hunit)] at hsurrogate
      cases hsurrogate
    have hp := hunit p (by simp) (CodePoint.isSurrogate_of_isHighSurrogate hhigh)
    have hq := hunit q (by simp) (CodePoint.isSurrogate_of_isLowSurrogate hlow)
    exact hjoins (by simp [Piece.joins, hp, hq, hhigh, hlow])

lemma isSurrogate_of_simpleEscape? {e c : CodePoint} (h : simpleEscape? e = some c) :
    c.isSurrogate = false := by
  unfold simpleEscape? at h
  split_ifs at h with hself
  · obtain rfl := Option.some.inj h
    rcases hself with rfl | rfl | rfl <;> decide
  all_goals
    obtain rfl := Option.some.inj h
    decide

lemma Spells.escapesSurrogates {t : Text} {ps : List Piece} (h : Spells t ps)
    (ht : ∀ c ∈ t, c.isSurrogate = false) : EscapesSurrogates ps := by
  induction h with
  | nil =>
    intro p hp
    cases hp
  | plain _ _ _ _ ih =>
    rw [List.forall_mem_cons] at ht
    exact List.forall_mem_cons.mpr ⟨fun _ => ht.1, ih ht.2⟩
  | simple he _ ih =>
    have hrest := ih fun c hc => ht c (by simp [hc])
    exact List.forall_mem_cons.mpr ⟨fun _ => isSurrogate_of_simpleEscape? he, hrest⟩
  | unit _ _ ih =>
    have hrest := ih fun c hc => ht c (by simp [hc])
    exact List.forall_mem_cons.mpr ⟨fun hunit => absurd hunit Bool.noConfusion, hrest⟩

lemma Spells.isUnpaired {t : Text} {ps : List Piece} (h : Spells t ps)
    (ht : ∀ c ∈ t, c.isSurrogate = false) : (joined ps).isUnpaired = true :=
  isUnpaired_joined (h.escapesSurrogates ht)

section

variable {α : Type} {q : CodePoint → Prop} {r : α → Prop}

end

end Json

end Courier
