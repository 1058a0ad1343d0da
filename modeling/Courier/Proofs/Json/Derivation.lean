import Courier.Proofs.Json.Reading
import Mathlib.Data.List.TakeWhile

/-!
# The reader reads nothing but the grammar

Whatever the reader takes off the beginning of a text has a derivation in the grammar, with the value
that the reader gives for it. This is shown for one production after the other, from the digits of a
number and the pieces of a string up to values, where the induction is on the nesting that is allowed.
With the other direction, a text denotes a value if and only if the reader gives that value for it.
-/

namespace Courier

namespace Json

/-- That what a reader takes off the beginning of a text is an item with the value that it gives. -/
def Derives {α : Type} (read : Text → Option (α × Text)) (item : Text → α → Prop) : Prop :=
  ∀ t v rest, read t = some (v, rest) → ∃ w, t = w ++ rest ∧ item w v

/-! ## Blanks -/

lemma exists_blanks (t : Text) : ∃ b, IsBlank b ∧ t = b ++ skipBlanks t :=
  ⟨t.takeWhile CodePoint.isJsonBlank, fun _ => List.mem_takeWhile_imp,
    List.takeWhile_append_dropWhile.symm⟩

lemma isBlank_of_skipBlanks_eq_nil {t : Text} (h : skipBlanks t = []) : IsBlank t := by
  obtain ⟨b, hb, hsplit⟩ := exists_blanks t
  rw [h, List.append_nil] at hsplit
  rwa [hsplit]

/-- Blanks in front belong to the first item. -/
lemma Separated.blanks {α : Type} {item : Text → α → Prop} {b t : Text} {vs : List α}
    (hb : IsBlank b) (h : Separated item t vs) : Separated item (b ++ t) vs := by
  have happend : ∀ {a : Text}, IsBlank a → IsBlank (b ++ a) := by
    intro a ha c hc
    rcases List.mem_append.mp hc with hc | hc
    · exact hb c hc
    · exact ha c hc
  cases h with
  | last ha hv hc =>
    rw [← List.append_assoc]
    exact .last (happend ha) hv hc
  | cons ha hv hc hrest =>
    rw [← List.append_assoc]
    exact .cons (happend ha) hv hc hrest

/-! ## Strings -/

lemma exists_spells_of_readString {pending : Bool} {found t s rest : Text}
    (h : readString pending found t = some (s, rest)) :
    ∃ k ps, t = k ++ CodePoint.ofChar '"' :: rest ∧ Spells k ps := by
  -- The cases are those of the reader: the end of the string, an escape, and any other code point.
  induction pending, found, t using readString.induct with
  | case1 => simp [readString] at h
  | case2 pending found t =>
    rw [readString_quote] at h
    obtain ⟨-, rfl⟩ := Prod.mk.inj (Option.some.inj h)
    exact ⟨[], [], rfl, .nil⟩
  | case3 => simp [readString] at h
  | case4 pending found a b c d t unit hunit _ ih =>
    rw [readString_unit hunit] at h
    obtain ⟨k, ps, rfl, hk⟩ := ih h
    exact ⟨_, _, rfl, .unit hunit hk⟩
  | case5 pending found a b c d t hunit =>
    rw [readString.eq_def] at h
    dsimp only at h
    rw [if_neg (by decide), if_pos rfl, if_pos rfl, hunit] at h
    cases h
  | case6 pending found t hshort =>
    rw [readString.eq_def] at h
    dsimp only at h
    rw [if_neg (by decide), if_pos rfl, if_pos rfl] at h
    split at h
    · next a b c d t => exact absurd rfl (hshort a b c d t)
    · cases h
  | case7 pending found e t _ c he _ ih =>
    rw [readString_simple he] at h
    obtain ⟨k, ps, rfl, hk⟩ := ih h
    exact ⟨_, _, rfl, .simple he hk⟩
  | case8 pending found e t hu he =>
    rw [readString.eq_def] at h
    dsimp only at h
    rw [if_neg (by decide), if_pos rfl, if_neg hu, he] at h
    cases h
  | case9 pending found c t hquote hslash hcontrol =>
    rw [readString.eq_def] at h
    dsimp only at h
    rw [if_neg hquote, if_neg hslash, if_pos hcontrol] at h
    cases h
  | case10 pending found c t hquote hslash hcontrol ih =>
    rw [readString_plain hquote hslash (Nat.not_lt.mp hcontrol)] at h
    obtain ⟨k, ps, rfl, hk⟩ := ih h
    exact ⟨_, _, rfl, .plain hquote hslash (Nat.not_lt.mp hcontrol) hk⟩

/-- A string that is read is spelled up to the quote after it. -/
lemma readString_eq_some {t s rest : Text} (h : readString false [] t = some (s, rest)) :
    ∃ k ps, t = k ++ CodePoint.ofChar '"' :: rest ∧ Spells k ps ∧ joined ps = s := by
  obtain ⟨k, ps, rfl, hk⟩ := exists_spells_of_readString h
  rw [readString_eq hk] at h
  exact ⟨k, ps, rfl, hk, (Prod.mk.inj (Option.some.inj h)).1⟩

/-! ## Numbers -/

namespace Numeral

section

variable {t rest digits : Text}

lemma span_isDigit (h : t.span CodePoint.isDigit = (digits, rest)) :
    t = digits ++ rest ∧ ∀ c ∈ digits, c.isDigit = true := by
  rw [List.span_eq_takeWhile_dropWhile] at h
  obtain ⟨rfl, rfl⟩ := Prod.mk.inj h
  exact ⟨List.takeWhile_append_dropWhile.symm, fun _ => List.mem_takeWhile_imp⟩

lemma readWhole_eq_some (h : readWhole t = some (digits, rest)) : t = digits ++ rest ∧
    IsDigits digits ∧ (digits.head? = some Text.zeroDigit → digits = [Text.zeroDigit]) := by
  unfold readWhole at h
  split at h
  · cases h
  · next c tail =>
    split at h
    · next hzero =>
      cases h
      subst hzero
      exact ⟨rfl, ⟨List.cons_ne_nil _ _, by decide⟩, fun _ => rfl⟩
    · next hzero =>
      split at h
      · next hc =>
        obtain ⟨hsplit, hdigits⟩ := span_isDigit (Option.some.inj h)
        cases digits with
        | nil =>
          -- The first code point is a digit, so there is at least one.
          rw [List.span_eq_takeWhile_dropWhile, List.takeWhile_cons_of_pos hc] at h
          cases h
        | cons d digits =>
          obtain ⟨rfl, -⟩ := List.cons.inj hsplit
          refine ⟨hsplit, ⟨List.cons_ne_nil _ _, hdigits⟩, fun hhead => ?_⟩
          exact absurd (Option.some.inj hhead) hzero
      · cases h

lemma readFraction_eq {f : Option Text} (h : readFraction t = (f, rest)) :
    t = fractionText f ++ rest ∧ ∀ digits ∈ f, IsDigits digits := by
  have hnone : (none, t) = (f, rest) → t = fractionText f ++ rest ∧
      ∀ digits ∈ f, IsDigits digits := by
    intro heq
    cases heq
    exact ⟨rfl, by simp⟩
  unfold readFraction at h
  split at h
  · next c tail =>
    split at h
    · next hpoint =>
      split at h
      · exact hnone h
      · next digits after hne hspan =>
        cases h
        obtain ⟨rfl, hdigits⟩ := span_isDigit hspan
        subst hpoint
        refine ⟨rfl, fun other hother => ?_⟩
        obtain rfl := Option.some.inj hother
        exact ⟨hne, hdigits⟩
    · exact hnone h
  · exact hnone h

lemma readSign_eq {sign : Option CodePoint} (h : readSign t = (sign, rest)) :
    t = sign.toList ++ rest ∧ ∀ c ∈ sign, c = '+' ∨ c = '-' := by
  unfold readSign at h
  split at h
  · next c tail =>
    split at h
    · next hc =>
      cases h
      refine ⟨rfl, fun d hd => ?_⟩
      obtain rfl := Option.some.inj hd
      exact hc
    · cases h
      exact ⟨rfl, by simp⟩
  · cases h
    exact ⟨rfl, by simp⟩

/-- An exponent that is read is written with one of the two letters. -/
lemma readExponent_eq {e : Option (Option CodePoint × Text)} (h : readExponent t = (e, rest)) :
    (∃ letter : CodePoint, (letter = 'e' ∨ letter = 'E') ∧ t = exponentText letter e ++ rest) ∧
      (∀ p ∈ e, ∀ c ∈ p.1, c = '+' ∨ c = '-') ∧ ∀ p ∈ e, IsDigits p.2 := by
  have hnone : (none, t) = (e, rest) →
      (∃ letter : CodePoint, (letter = 'e' ∨ letter = 'E') ∧ t = exponentText letter e ++ rest) ∧
        (∀ p ∈ e, ∀ c ∈ p.1, c = '+' ∨ c = '-') ∧ ∀ p ∈ e, IsDigits p.2 := by
    intro heq
    cases heq
    exact ⟨⟨'e', .inl rfl, rfl⟩, by simp, by simp⟩
  unfold readExponent at h
  split at h
  · next c tail =>
    split at h
    · next hletter =>
      obtain ⟨hsign, hmark⟩ := readSign_eq (Prod.mk.eta (p := readSign tail)).symm
      dsimp only at h
      split at h
      · exact hnone h
      · next digits after hne hspan =>
        cases h
        obtain ⟨hafter, hdigits⟩ := span_isDigit hspan
        refine ⟨⟨c, hletter, ?_⟩, ?_, ?_⟩
        · rw [exponentText, List.cons_append, List.append_assoc, ← hafter, ← hsign]
        · rintro p ⟨⟩
          exact hmark
        · rintro p ⟨⟩
          exact ⟨hne, hdigits⟩
    · exact hnone h
  · exact hnone h

lemma readUnsigned_eq_some {negative : Bool} {n : Numeral}
    (h : readUnsigned negative t = some (n, rest)) : n.IsProper ∧
      ∃ letter : CodePoint, (letter = 'e' ∨ letter = 'E') ∧
        signText negative ++ t = n.text letter ++ rest := by
  simp only [readUnsigned, Option.bind_eq_bind, Option.bind_eq_some_iff] at h
  obtain ⟨⟨whole, afterWhole⟩, hwhole, h⟩ := h
  obtain ⟨hn, hrest⟩ := Prod.mk.inj (Option.some.inj h)
  obtain ⟨rfl, hdigits, hzero⟩ := readWhole_eq_some hwhole
  obtain ⟨hfraction, hproper⟩ := readFraction_eq (Prod.mk.eta (p := readFraction afterWhole)).symm
  obtain ⟨⟨letter, hletter, hexponent⟩, hsign, hexponents⟩ :=
    readExponent_eq (Prod.mk.eta (p := readExponent (readFraction afterWhole).2)).symm
  subst hn hrest
  refine ⟨⟨hdigits, hzero, hproper, hsign, hexponents⟩, letter, hletter, ?_⟩
  conv_lhs => rw [hfraction, hexponent]
  simp [text]

/-- A number that is read is proper, and its text was there. -/
lemma read_eq_some {n : Numeral} (h : read t = some (n, rest)) : n.IsProper ∧
    ∃ letter : CodePoint, (letter = 'e' ∨ letter = 'E') ∧ t = n.text letter ++ rest := by
  by_cases hminus : ∃ tail, t = CodePoint.ofChar '-' :: tail
  · obtain ⟨tail, rfl⟩ := hminus
    have hread : readUnsigned true tail = some (n, rest) := h
    exact readUnsigned_eq_some hread
  · have hhead : ∀ c ∈ t.head?, c ≠ '-' := by
      rintro c hc rfl
      obtain ⟨tail, htail⟩ := List.head?_eq_some_iff.mp hc
      exact hminus ⟨tail, htail⟩
    have hread := read_signText false hhead
    rw [signText, if_neg Bool.false_ne_true, List.nil_append] at hread
    rw [hread] at h
    exact readUnsigned_eq_some h

end

end Numeral

/-! ## Lists -/

section

variable {α : Type} {read : Text → Option (α × Text)} {item : Text → α → Prop}

/-- Items that are read one after the other are separated, and the closing bracket follows them. -/
lemma Derives.readItems (h : Derives read item) (close : CodePoint) {rounds : Nat}
    {found vs : List α} {t rest : Text}
    (hread : readItems read close rounds found t = some (vs, rest)) :
    ∃ w us, t = w ++ close :: rest ∧ vs = found.reverse ++ us ∧ Separated item w us := by
  induction rounds generalizing found t with
  | zero => cases hread
  | succ rounds ih =>
    rw [Json.readItems] at hread
    split at hread
    · cases hread
    · next v after hitem =>
      obtain ⟨w, rfl, hw⟩ := h t v after hitem
      obtain ⟨b, hb, hafter⟩ := exists_blanks after
      split at hread
      · cases hread
      · next c tail hskip =>
        rw [hskip] at hafter
        subst hafter
        split at hread
        · next hcomma =>
          subst hcomma
          obtain ⟨w', us, htail, rfl, hus⟩ := ih hread
          obtain ⟨a, ha, hblanks⟩ := exists_blanks tail
          rw [htail] at hblanks
          subst hblanks
          refine ⟨w ++ (b ++ CodePoint.ofChar ',' :: (a ++ w')), v :: us, by simp, by simp, ?_⟩
          exact .cons isBlank_nil hw hb (hus.blanks ha)
        · split at hread
          · next hclose =>
            subst hclose
            cases hread
            exact ⟨w ++ b, [v], by simp, by simp, .last isBlank_nil hw hb⟩
          · cases hread

/-- A list that is read stands between its brackets. -/
lemma Derives.readList (h : Derives read item) (opening close : CodePoint) {rounds : Nat} {t : Text}
    {vs : List α} {rest : Text} (hread : readList read close rounds t = some (vs, rest)) :
    ∃ w, opening :: t = w ++ rest ∧ Listed item opening close w vs := by
  obtain ⟨b, hb, hsplit⟩ := exists_blanks t
  unfold Json.readList at hread
  dsimp only at hread
  split at hread
  · cases hread
  · next c tail hskip =>
    rw [hskip] at hsplit hread
    split at hread
    · next hclose =>
      cases hread
      exact ⟨opening :: (b ++ [close]), by simp [hsplit, hclose], .empty hb⟩
    · obtain ⟨w, us, htail, rfl, hus⟩ := h.readItems close hread
      refine ⟨opening :: (b ++ w ++ [close]), by simp [hsplit, htail], ?_⟩
      exact .items (hus.blanks hb)

end

lemma Derives.readMember {read : Text → Option (Json × Text)} {value : Text → Json → Prop}
    (h : Derives read value) : Derives (readMember read) (IsMember value) := by
  intro t member rest hread
  unfold Json.readMember at hread
  split at hread
  · cases hread
  · next q t =>
    split at hread
    · next hquote =>
      split at hread
      · cases hread
      · next key after hkey =>
        obtain ⟨k, ps, rfl, hk, rfl⟩ := readString_eq_some hkey
        obtain ⟨a, ha, hafter⟩ := exists_blanks after
        split at hread
        · cases hread
        · next c tail hskip =>
          rw [hskip] at hafter
          split at hread
          · next hcolon =>
            obtain ⟨⟨v, end'⟩, hvalue, hmember⟩ := Option.map_eq_some_iff.mp hread
            cases hmember
            obtain ⟨b, hb, htail⟩ := exists_blanks tail
            obtain ⟨w, hw, hv⟩ := h _ v _ hvalue
            refine ⟨_, ?_, .mk hk ha hb hv⟩
            rw [hquote, hafter, hcolon, htail, hw]
            simp
          · cases hread
    · cases hread

/-! ## Values -/

lemma derives_readScalar (dialect : Dialect) (inside : Option (Text → Json → Prop)) :
    Derives (readScalar dialect) (IsForm dialect inside) := by
  intro t v rest hread
  unfold readScalar at hread
  dsimp only at hread
  split at hread
  · next found hfound =>
    cases hread
    obtain ⟨word, hword, hafter⟩ := List.exists_of_findSome?_eq_some hfound
    obtain ⟨after, hafter, hv⟩ := Option.map_eq_some_iff.mp hafter
    cases hv
    exact ⟨_, Text.after?_eq_some_iff.mp hafter, .word hword⟩
  · simp only [Option.bind_eq_bind, Option.bind_eq_some_iff] at hread
    obtain ⟨⟨n, after⟩, hn, value, hvalue, hv⟩ := hread
    cases hv
    obtain ⟨hproper, letter, hletter, rfl⟩ := Numeral.read_eq_some hn
    exact ⟨_, rfl, .number hproper hletter hvalue⟩

section

variable {dialect : Dialect} {rounds nesting : Nat}

/-- A value that is read is of one of the forms, if so are the values inside of it. -/
lemma derives_readValue_of {inside : Option (Text → Json → Prop)}
    (h : ∀ inner, nesting = inner + 1 →
      ∃ value ∈ inside, Derives (readValue dialect rounds inner) value) :
    Derives (readValue dialect rounds nesting) (IsForm dialect inside) := by
  intro t v rest hread
  unfold readValue at hread
  split at hread
  · cases hread
  · next c tail =>
    split at hread
    · next hquote =>
      obtain ⟨⟨s, after⟩, hs, hv⟩ := Option.map_eq_some_iff.mp hread
      cases hv
      obtain ⟨k, ps, rfl, hk, rfl⟩ := readString_eq_some hs
      exact ⟨_, by rw [hquote]; simp, .string hk⟩
    · split at hread
      · next hbracket =>
        split at hread
        · cases hread
        · next inner =>
          obtain ⟨value, hinside, hvalue⟩ := h inner rfl
          obtain ⟨⟨items, after⟩, hitems, hv⟩ := Option.map_eq_some_iff.mp hread
          cases hv
          obtain rfl := hinside
          obtain ⟨w, hw, hlist⟩ := hvalue.readList c ']' hitems
          rw [hbracket] at hw hlist
          exact ⟨w, by rw [hbracket, hw], .array hlist⟩
      · split at hread
        · next hbrace =>
          split at hread
          · cases hread
          · next inner =>
            obtain ⟨value, hinside, hvalue⟩ := h inner rfl
            obtain ⟨⟨entries, after⟩, hentries, hv⟩ := Option.map_eq_some_iff.mp hread
            cases hv
            obtain rfl := hinside
            obtain ⟨w, hw, hlist⟩ := hvalue.readMember.readList c '\x7d' hentries
            rw [hbrace] at hw hlist
            exact ⟨w, by rw [hbrace, hw], .object hlist⟩
        · exact derives_readScalar dialect inside _ v rest hread

/-- What is read as a value denotes that value. -/
theorem derives_readValue (dialect : Dialect) (rounds nesting : Nat) :
    Derives (readValue dialect rounds nesting) (IsValue dialect nesting) := by
  induction nesting with
  | zero => exact derives_readValue_of fun inner h => absurd h (Nat.succ_ne_zero inner).symm
  | succ nesting ih =>
    refine derives_readValue_of fun inner h => ?_
    obtain rfl := Nat.succ.inj h
    exact ⟨_, rfl, ih⟩

end

/-- A text that is read denotes the value. -/
theorem isText_of_read? {dialect : Dialect} {t : Text} {v : Json} (h : read? dialect t = some v) :
    IsText dialect t v := by
  unfold read? at h
  split at h
  · next value rest hvalue =>
    split at h
    · next hrest =>
      cases h
      obtain ⟨a, ha, hsplit⟩ := exists_blanks t
      obtain ⟨w, hw, hv⟩ := derives_readValue _ _ _ _ _ _ hvalue
      rw [hw] at hsplit
      exact ⟨a, w, rest, hsplit, ha, isBlank_of_skipBlanks_eq_nil (List.isEmpty_iff.mp hrest), hv⟩
    · cases h
  · cases h

/-- The reader gives a value for the texts that denote it and for no others. -/
theorem read?_eq_some_iff {dialect : Dialect} {t : Text} {v : Json} :
    read? dialect t = some v ↔ IsText dialect t v :=
  ⟨isText_of_read?, read?_eq_some⟩

/-- A text denotes one value at most. -/
theorem IsText.unique {dialect : Dialect} {t : Text} {v v' : Json} (h : IsText dialect t v)
    (h' : IsText dialect t v') : v = v' :=
  Option.some.inj ((read?_eq_some h).symm.trans (read?_eq_some h'))

end Json

end Courier
