import Courier.Proofs.Json.Numeral
import Courier.Proofs.Json.Spelling

/-!
# The grammar of JSON texts

The grammar says which texts denote which value. It is stated without a reader: a relation between
texts and values for each production, with the relation for the items of an array or object as a
parameter, so that values are defined by recursion on the nesting that is allowed. The rest of the
module is about how the texts of values begin, about what may stand after them, and about the words
and the numbers, which the reader tells apart by their beginnings.
-/

namespace Courier

namespace Json

/-! ## Productions -/

/-- A run of blanks. -/
def IsBlank (t : Text) : Prop := ∀ c ∈ t, c.isJsonBlank = true

/-- One or more items with commas between them and blanks around them. -/
inductive Separated {α : Type} (item : Text → α → Prop) : Text → List α → Prop
  | last {a t b : Text} {v : α} (ha : IsBlank a) (h : item t v) (hb : IsBlank b) :
      Separated item (a ++ (t ++ b)) [v]
  | cons {a t b rest : Text} {v : α} {vs : List α} (ha : IsBlank a) (h : item t v)
      (hb : IsBlank b) (hrest : Separated item rest vs) :
      Separated item (a ++ (t ++ (b ++ CodePoint.ofChar ',' :: rest))) (v :: vs)

/-- Any number of items between brackets. -/
inductive Listed {α : Type} (item : Text → α → Prop) (opening closing : CodePoint) :
    Text → List α → Prop
  | empty {b : Text} (hb : IsBlank b) : Listed item opening closing (opening :: (b ++ [closing])) []
  | items {t : Text} {vs : List α} (h : Separated item t vs) :
      Listed item opening closing (opening :: (t ++ [closing])) vs

/-- A key, a colon and a value, with blanks around the colon. -/
inductive IsMember (value : Text → Json → Prop) : Text → Text × Json → Prop
  | mk {k a b t : Text} {ps : List Piece} {v : Json} (hk : Spells k ps) (ha : IsBlank a)
      (hb : IsBlank b) (h : value t v) :
      IsMember value
        (CodePoint.ofChar '"' :: (k ++ CodePoint.ofChar '"' ::
          (a ++ CodePoint.ofChar ':' :: (b ++ t))))
        (joined ps, v)

/-- The forms of a value, given what the values inside an array or object look like, if there may be
arrays and objects at all. -/
inductive IsForm (dialect : Dialect) : Option (Text → Json → Prop) → Text → Json → Prop
  | word {inside : Option (Text → Json → Prop)} {w : String} {v : Json}
      (h : (w, v) ∈ words dialect) : IsForm dialect inside (Text.ofString w) v
  | number {inside : Option (Text → Json → Prop)} {n : Numeral} {letter : CodePoint} {v : Json}
      (hn : n.IsProper) (hletter : letter = 'e' ∨ letter = 'E') (hv : n.toJson? = some v) :
      IsForm dialect inside (n.text letter) v
  | string {inside : Option (Text → Json → Prop)} {t : Text} {ps : List Piece} (h : Spells t ps) :
      IsForm dialect inside (CodePoint.ofChar '"' :: (t ++ [CodePoint.ofChar '"']))
        (.string (joined ps))
  | array {value : Text → Json → Prop} {t : Text} {items : List Json}
      (h : Listed value '[' ']' t items) : IsForm dialect (some value) t (.array items)
  | object {value : Text → Json → Prop} {t : Text} {entries : List (Text × Json)}
      (h : Listed (IsMember value) '\x7b' '\x7d' t entries) :
      IsForm dialect (some value) t (.object (Fields.ofEntries entries))

/-- That a text denotes a value, with a bound on the nesting of arrays and objects. -/
def IsValue (dialect : Dialect) : (nesting : Nat) → Text → Json → Prop
  | 0 => IsForm dialect none
  | nesting + 1 => IsForm dialect (some (IsValue dialect nesting))

/-- That a text is a JSON text for a value: blanks may stand around the value. -/
def IsText (dialect : Dialect) (t : Text) (v : Json) : Prop :=
  ∃ a w b, t = a ++ (w ++ b) ∧ IsBlank a ∧ IsBlank b ∧ IsValue dialect maxNesting w v

/-! ## Properties of all values -/

lemma words_subset (dialect : Dialect) : words dialect ⊆ words .lenient := by
  cases dialect with
  | strict => exact List.subset_append_left _ _
  | lenient => exact List.Subset.refl _

section

variable {α : Type} {p q : Text → α → Prop}

lemma Separated.mono (h : ∀ t v, p t v → q t v) {t : Text} {vs : List α} (ht : Separated p t vs) :
    Separated q t vs := by
  induction ht with
  | last ha hv hb => exact .last ha (h _ _ hv) hb
  | cons ha hv hb _ ih => exact .cons ha (h _ _ hv) hb ih

lemma Listed.mono (h : ∀ t v, p t v → q t v) {opening closing : CodePoint} {t : Text}
    {vs : List α} (ht : Listed p opening closing t vs) : Listed q opening closing t vs := by
  cases ht with
  | empty hb => exact .empty hb
  | items hvs => exact .items (hvs.mono h)

/-- What is known of the items whatever their texts are holds of all of them. -/
lemma Separated.forall_items {r : α → Prop} {t : Text} {vs : List α}
    (h : Separated (fun _ v => r v) t vs) : ∀ v ∈ vs, r v := by
  induction h with
  | last _ hv _ => exact List.forall_mem_singleton.mpr hv
  | cons _ hv _ _ ih => exact List.forall_mem_cons.mpr ⟨hv, ih⟩

lemma Listed.forall_items {r : α → Prop} {opening closing : CodePoint} {t : Text} {vs : List α}
    (h : Listed (fun _ v => r v) opening closing t vs) : ∀ v ∈ vs, r v := by
  cases h with
  | empty _ => simp
  | items hvs => exact hvs.forall_items

end

section

variable {dialect dialect' : Dialect} {p q : Text → Json → Prop} {t : Text} {v : Json}

lemma IsMember.mono (h : ∀ t v, p t v → q t v) {member : Text × Json} (ht : IsMember p t member) :
    IsMember q t member := by
  cases ht with
  | mk hk ha hb hv => exact .mk hk ha hb (h _ _ hv)

lemma IsForm.mono (hwords : words dialect ⊆ words dialect')
    {inside inside' : Option (Text → Json → Prop)}
    (h : ∀ p ∈ inside, ∃ q ∈ inside', ∀ t v, p t v → q t v) (ht : IsForm dialect inside t v) :
    IsForm dialect' inside' t v := by
  cases ht with
  | word hw => exact .word (hwords hw)
  | number hn hletter hv => exact .number hn hletter hv
  | string hs => exact .string hs
  | array hlist =>
    obtain ⟨q, rfl, hq⟩ := h _ rfl
    exact .array (hlist.mono hq)
  | object hlist =>
    obtain ⟨q, rfl, hq⟩ := h _ rfl
    exact .object (hlist.mono fun _ _ => IsMember.mono hq)

/-- What holds of every form of a value, if it holds of the values inside, holds of all values. -/
theorem IsValue.of_forall_form (h : ∀ t v, IsForm dialect (some p) t v → p t v) {nesting : Nat}
    (ht : IsValue dialect nesting t v) : p t v := by
  induction nesting generalizing t v with
  | zero => exact h t v (IsForm.mono (List.Subset.refl _) (by simp) ht)
  | succ nesting ih =>
    refine h t v (IsForm.mono (List.Subset.refl _) ?_ ht)
    intro value hvalue
    obtain rfl := Option.some.inj hvalue
    exact ⟨p, rfl, fun _ _ => ih⟩

/-- What a text denotes in a dialect it denotes in the lenient one. -/
lemma IsValue.lenient {nesting : Nat} (ht : IsValue dialect nesting t v) :
    IsValue .lenient nesting t v := by
  induction nesting generalizing t v with
  | zero => exact IsForm.mono (words_subset dialect) (by simp) ht
  | succ nesting ih =>
    refine IsForm.mono (words_subset dialect) ?_ ht
    intro value hvalue
    obtain rfl := Option.some.inj hvalue
    exact ⟨_, rfl, fun _ _ => ih⟩

lemma IsText.lenient (ht : IsText dialect t v) : IsText .lenient t v := by
  obtain ⟨a, w, b, rfl, ha, hb, hw⟩ := ht
  exact ⟨a, w, b, rfl, ha, hb, hw.lenient⟩

end

/-! ## Beginnings and ends -/

/-- That a text begins with neither a blank nor a closing bracket, as values and members do. -/
def Starts (t : Text) : Prop :=
  ∃ c rest, t = c :: rest ∧ c.isJsonBlank = false ∧ c ≠ ']' ∧ c ≠ '\x7d'

/-- That a text goes on with what may stand after a value, if it goes on at all. -/
def Stops (t : Text) : Prop :=
  ∀ c ∈ t.head?, c.isJsonBlank = true ∨ c = ',' ∨ c = ']' ∨ c = '\x7d'

lemma isBlank_nil : IsBlank [] := fun _ h => absurd h List.not_mem_nil

lemma skipBlanks_append {a : Text} (ha : IsBlank a) (t : Text) :
    skipBlanks (a ++ t) = skipBlanks t :=
  List.dropWhile_append_of_pos ha

lemma skipBlanks_cons {c : CodePoint} (h : c.isJsonBlank = false) (t : Text) :
    skipBlanks (c :: t) = c :: t := by
  simp [skipBlanks, h]

lemma Starts.skipBlanks {t : Text} (h : Starts t) (rest : Text) :
    skipBlanks (t ++ rest) = t ++ rest := by
  obtain ⟨c, tail, rfl, hblank, -⟩ := h
  exact skipBlanks_cons hblank _

lemma Starts.append {t : Text} (h : Starts t) (rest : Text) : Starts (t ++ rest) := by
  obtain ⟨c, tail, rfl, hc⟩ := h
  exact ⟨c, tail ++ rest, rfl, hc⟩

lemma Stops.of_isBlank {b : Text} (hb : IsBlank b) {c : CodePoint}
    (hc : c = ',' ∨ c = ']' ∨ c = '\x7d') (rest : Text) : Stops (b ++ c :: rest) := by
  intro d hd
  cases b with
  | nil =>
    obtain rfl : c = d := by simpa using hd
    exact .inr hc
  | cons e b =>
    obtain rfl : e = d := by simpa using hd
    exact .inl (hb e (by simp))

lemma Stops.ends {t : Text} (h : Stops t) : Numeral.Ends t := by
  intro c hc
  rcases h c hc with hblank | rfl | rfl | rfl
  · simp only [CodePoint.isJsonBlank, Bool.or_eq_true, decide_eq_true_eq] at hblank
    have hdigit : c.isDigit = false := by
      simp only [CodePoint.isDigit, Bool.and_eq_false_iff, decide_eq_false_iff_not]
      omega
    refine ⟨hdigit, ?_, ?_, ?_⟩ <;> rintro rfl <;> exact absurd hblank (by decide)
  · decide
  · decide
  · decide

/-! ## Words and numbers -/

/-- Whether a code point is neither a blank nor the first or last one of a string, an array or an
object. -/
def isPlainHead (c : CodePoint) : Bool :=
  !c.isJsonBlank && !((['"', '[', ']', '\x7b', '\x7d'].map CodePoint.ofChar).contains c)

/-- That a text begins as words and numbers do. -/
def StartsPlainly (t : Text) : Prop := t.head?.any isPlainHead = true

lemma StartsPlainly.exists_cons {t : Text} (h : StartsPlainly t) :
    ∃ c rest, t = c :: rest ∧ isPlainHead c = true := by
  cases t with
  | nil => exact absurd h Bool.false_ne_true
  | cons c rest => exact ⟨c, rest, rfl, h⟩

lemma ne_of_isPlainHead {c d : CodePoint} (h : isPlainHead c = true) (hd : isPlainHead d = false) :
    c ≠ d := by
  rintro rfl
  rw [h] at hd
  exact Bool.noConfusion hd

lemma StartsPlainly.starts {t : Text} (h : StartsPlainly t) : Starts t := by
  obtain ⟨c, rest, rfl, hc⟩ := h.exists_cons
  have hblank : c.isJsonBlank = false := by
    simp only [isPlainHead, Bool.and_eq_true, Bool.not_eq_true'] at hc
    exact hc.1
  exact ⟨c, rest, rfl, hblank, ne_of_isPlainHead hc (by decide), ne_of_isPlainHead hc (by decide)⟩

lemma isPlainHead_of_isDigit {c : CodePoint} (h : c.isDigit = true) : isPlainHead c = true := by
  have hmarks : ∀ d ∈ ['"', '[', ']', '\x7b', '\x7d'].map CodePoint.ofChar, d.isDigit = false := by
    decide
  rw [isPlainHead, Bool.and_eq_true]
  constructor
  · simp only [CodePoint.isDigit, Bool.and_eq_true, decide_eq_true_eq] at h
    simp only [CodePoint.isJsonBlank, Bool.not_eq_true', Bool.or_eq_false_iff,
      decide_eq_false_iff_not]
    omega
  · rw [Bool.not_eq_true', List.contains_eq_mem, decide_eq_false_iff_not]
    intro hmem
    rw [hmarks c hmem] at h
    exact Bool.noConfusion h

lemma startsPlainly_number {n : Numeral} (h : n.IsProper) (letter : CodePoint) :
    StartsPlainly (n.text letter) := by
  obtain ⟨c, rest, hwhole, hc⟩ := h.whole.exists_cons
  unfold Numeral.text Numeral.signText
  split
  · exact (by decide : isPlainHead '-' = true)
  · rw [hwhole]
    exact isPlainHead_of_isDigit hc

lemma mem_names {dialect : Dialect} {w : String} {v : Json} (h : (w, v) ∈ words dialect) :
    w ∈ (words .lenient).map (·.1) :=
  List.mem_map.mpr ⟨(w, v), words_subset dialect h, rfl⟩

lemma startsPlainly_word {dialect : Dialect} {w : String} {v : Json}
    (h : (w, v) ∈ words dialect) : StartsPlainly (Text.ofString w) := by
  have hall : ∀ w ∈ (words .lenient).map (·.1), (Text.ofString w).head?.any isPlainHead = true := by
    decide
  exact hall w (mem_names h)

/-- A word is read from the beginning of any text. -/
lemma readScalar_word {dialect : Dialect} {w : String} {v : Json} (h : (w, v) ∈ words dialect)
    (rest : Text) : readScalar dialect (Text.ofString w ++ rest) = some (v, rest) := by
  cases dialect with
  | strict =>
    simp only [words, plainWords, List.mem_cons, Prod.mk.injEq, List.not_mem_nil, or_false] at h
    rcases h with ⟨rfl, rfl⟩ | ⟨rfl, rfl⟩ | ⟨rfl, rfl⟩ <;> rfl
  | lenient =>
    simp only [words, plainWords, constants, List.cons_append, List.nil_append, List.mem_cons,
      Prod.mk.injEq, List.not_mem_nil, or_false] at h
    rcases h with ⟨rfl, rfl⟩ | ⟨rfl, rfl⟩ | ⟨rfl, rfl⟩ | ⟨rfl, rfl⟩ | ⟨rfl, rfl⟩ | ⟨rfl, rfl⟩ <;> rfl

/-- No word is the beginning of a number: the first or the second code point of a number is a digit,
and neither is one in a word. -/
lemma after?_word_number {dialect : Dialect} {w : String} {v : Json} (h : (w, v) ∈ words dialect)
    {n : Numeral} (hn : n.IsProper) (letter : CodePoint) (rest : Text) :
    Text.after? (Text.ofString w) (n.text letter ++ rest) = none := by
  have hall : ∀ w ∈ (words .lenient).map (·.1), 2 ≤ (Text.ofString w).length ∧
      ∀ c ∈ (Text.ofString w).take 2, c.isDigit = false := by decide
  obtain ⟨hlength, hdigit⟩ := hall w (mem_names h)
  obtain ⟨c, digits, hwhole, hc⟩ := hn.whole.exists_cons
  cases hafter : Text.after? (Text.ofString w) (n.text letter ++ rest) with
  | none => rfl
  | some t =>
    exfalso
    rw [Text.after?_eq_some_iff] at hafter
    rcases hw : Text.ofString w with _ | ⟨x, _ | ⟨y, tail⟩⟩
    · rw [hw] at hlength
      exact absurd hlength (by decide)
    · rw [hw] at hlength
      exact absurd hlength (by simp)
    · rw [hw] at hafter hdigit
      cases hnegative : n.negative with
      | true =>
        have heq : c = y := by
          simp [Numeral.text, Numeral.signText, hnegative, hwhole] at hafter
          exact hafter.2.1
        rw [heq, hdigit y (by simp)] at hc
        exact Bool.noConfusion hc
      | false =>
        have heq : c = x := by
          simp [Numeral.text, Numeral.signText, hnegative, hwhole] at hafter
          exact hafter.1
        rw [heq, hdigit x (by simp)] at hc
        exact Bool.noConfusion hc

/-- A number is read from the beginning of a text that does not go on with a part of a number, if it
denotes anything. -/
lemma readScalar_number {dialect : Dialect} {n : Numeral} (hn : n.IsProper) {letter : CodePoint}
    (hletter : letter = 'e' ∨ letter = 'E') {rest : Text} (hrest : Numeral.Ends rest) :
    readScalar dialect (n.text letter ++ rest) = n.toJson?.map fun v => (v, rest) := by
  have hword : ∀ entry ∈ words dialect,
      (Text.after? (Text.ofString entry.1) (n.text letter ++ rest)).map (entry.2, ·) = none := by
    intro entry hentry
    rw [after?_word_number hentry hn]
    rfl
  unfold readScalar
  dsimp only
  rw [List.findSome?_eq_none_iff.mpr hword]
  simp only [Numeral.read_append hn hletter hrest, Option.bind_eq_bind, Option.bind_some]
  cases n.toJson? <;> rfl

end Json

end Courier
