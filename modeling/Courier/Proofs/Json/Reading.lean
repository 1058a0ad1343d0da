import Courier.Proofs.Json.Grammar

/-!
# The reader reads the grammar

Whatever text the grammar has for a value, the reader gives that value. The induction is on the
nesting that is allowed; for the items of an array or object it is on the derivation that separates
them. What is read is the beginning of a longer text, which may go on with anything that may stand
after a value, and the rounds in which items are read are bounded by the length of the text.
-/

namespace Courier

namespace Json

/-! ## Items between brackets -/

section

variable {α : Type} {p : Text → α → Prop}

lemma Separated.starts (hstarts : ∀ t v, p t v → Starts t) {t : Text} {vs : List α}
    (h : Separated p t vs) : ∃ a w, t = a ++ w ∧ IsBlank a ∧ Starts w := by
  cases h with
  | @last a t b v ha hv _ => exact ⟨a, t ++ b, rfl, ha, (hstarts t v hv).append b⟩
  | @cons a t b rest v vs ha hv _ _ => exact ⟨a, _, rfl, ha, (hstarts t v hv).append _⟩

/-- Every item takes up at least one code point. -/
lemma Separated.length_le (hstarts : ∀ t v, p t v → Starts t) {t : Text} {vs : List α}
    (h : Separated p t vs) : vs.length ≤ t.length := by
  induction h with
  | @last a t b v _ hv _ =>
    obtain ⟨c, rest, rfl, -⟩ := hstarts t v hv
    simp only [List.length_append, List.length_cons, List.length_nil]
    omega
  | @cons a t b rest v vs _ hv _ _ ih =>
    simp only [List.length_append, List.length_cons]
    omega

variable {item : Text → Option (α × Text)} {close : CodePoint} {bound : Nat}

/-- The items are read one after the other up to the closing bracket. -/
lemma readItems_eq (hclose : close = ']' ∨ close = '\x7d') (hstarts : ∀ t v, p t v → Starts t)
    (hitem : ∀ t v, p t v → t.length ≤ bound → ∀ rest, Stops rest →
      item (t ++ rest) = some (v, rest)) {t : Text} {vs : List α} (h : Separated p t vs)
    (hbound : t.length ≤ bound) (rest : Text) :
    ∀ rounds found, vs.length ≤ rounds →
      readItems item close rounds found (skipBlanks (t ++ close :: rest)) =
        some (found.reverse ++ vs, rest) := by
  have hcloseBlank : close.isJsonBlank = false := by
    rcases hclose with rfl | rfl <;> decide
  have hcloseComma : close ≠ ',' := by
    rcases hclose with rfl | rfl <;> decide
  induction h with
  | @last a t b v ha hv hb =>
    intro rounds found hrounds
    obtain ⟨rounds, rfl⟩ : ∃ n, rounds = n + 1 := ⟨rounds - 1, by simp at hrounds; omega⟩
    simp only [List.length_append] at hbound
    -- The item is followed by blanks and the closing bracket, which end every value.
    have hstops : Stops (b ++ close :: rest) := Stops.of_isBlank hb (.inr hclose) rest
    have hread := hitem t v hv (by omega) _ hstops
    rw [List.append_assoc, skipBlanks_append ha, List.append_assoc,
      (hstarts t v hv).skipBlanks, readItems, hread]
    dsimp only
    rw [skipBlanks_append hb, skipBlanks_cons hcloseBlank]
    dsimp only
    rw [if_neg hcloseComma, if_pos rfl, List.reverse_cons]
  | @cons a t b tail v vs ha hv hb htail ih =>
    intro rounds found hrounds
    obtain ⟨rounds, rfl⟩ : ∃ n, rounds = n + 1 := ⟨rounds - 1, by simp at hrounds; omega⟩
    simp only [List.length_append, List.length_cons] at hbound hrounds
    have hstops : Stops (b ++ CodePoint.ofChar ',' :: (tail ++ close :: rest)) :=
      Stops.of_isBlank hb (.inl rfl) _
    have hread := hitem t v hv (by omega) _ hstops
    have hassoc : a ++ (t ++ (b ++ CodePoint.ofChar ',' :: tail)) ++ close :: rest =
        a ++ (t ++ (b ++ CodePoint.ofChar ',' :: (tail ++ close :: rest))) := by simp
    rw [hassoc, skipBlanks_append ha, (hstarts t v hv).skipBlanks, readItems, hread]
    dsimp only
    rw [skipBlanks_append hb, skipBlanks_cons (by decide)]
    dsimp only
    rw [if_pos rfl, ih (by omega) rounds _ (by omega), List.reverse_cons, List.append_assoc]
    rfl

/-- A list of items is read after its opening bracket. -/
lemma readList_eq {opening : CodePoint} (hclose : close = ']' ∨ close = '\x7d')
    (hstarts : ∀ t v, p t v → Starts t)
    (hitem : ∀ t v, p t v → t.length ≤ bound → ∀ rest, Stops rest →
      item (t ++ rest) = some (v, rest)) {t : Text} {vs : List α}
    (h : Listed p opening close t vs) (hbound : t.length ≤ bound) (rest : Text) :
    ∃ body, t = opening :: body ∧ readList item close bound (body ++ rest) = some (vs, rest) := by
  have hcloseBlank : close.isJsonBlank = false := by
    rcases hclose with rfl | rfl <;> decide
  cases h with
  | @empty b hb =>
    refine ⟨_, rfl, ?_⟩
    have hassoc : b ++ [close] ++ rest = b ++ close :: rest := by simp
    rw [hassoc, readList, skipBlanks_append hb, skipBlanks_cons hcloseBlank]
    dsimp only
    rw [if_pos rfl]
  | @items t vs hvs =>
    refine ⟨_, rfl, ?_⟩
    simp only [List.length_cons, List.length_append] at hbound
    have hassoc : t ++ [close] ++ rest = t ++ close :: rest := by simp
    have hitems := readItems_eq hclose hstarts hitem hvs (by omega) rest bound []
      (Nat.le_trans (hvs.length_le hstarts) (by omega))
    -- The first item does not start like the closing bracket of an empty list.
    obtain ⟨a, w, hsplit, ha, hw⟩ := hvs.starts hstarts
    obtain ⟨c, tail, rfl, hblank, hne⟩ := hw
    have hskip : skipBlanks (t ++ close :: rest) = c :: (tail ++ close :: rest) := by
      rw [hsplit, List.append_assoc, skipBlanks_append ha, List.cons_append, skipBlanks_cons hblank]
    have hcne : c ≠ close := by
      rcases hclose with rfl | rfl
      · exact hne.1
      · exact hne.2
    rw [hskip] at hitems
    rw [hassoc, readList, hskip]
    dsimp only
    rw [if_neg hcne, hitems]
    rfl

end

/-! ## Members -/

lemma IsMember.starts {value : Text → Json → Prop} {t : Text} {member : Text × Json}
    (h : IsMember value t member) : Starts t := by
  cases h with
  | mk _ _ _ _ => exact ⟨_, _, rfl, by decide, by decide, by decide⟩

lemma readMember_eq {value : Text → Json → Prop} {read : Text → Option (Json × Text)} {bound : Nat}
    (hstarts : ∀ t v, value t v → Starts t)
    (hread : ∀ t v, value t v → t.length ≤ bound → ∀ rest, Stops rest →
      read (t ++ rest) = some (v, rest)) {t : Text} {member : Text × Json}
    (h : IsMember value t member) (hbound : t.length ≤ bound) {rest : Text} (hrest : Stops rest) :
    readMember read (t ++ rest) = some (member, rest) := by
  cases h with
  | @mk k a b t ps v hk ha hb hv =>
    simp only [List.length_cons, List.length_append] at hbound
    have hvalue := hread t v hv (by omega) rest hrest
    have hkey := readString_eq hk (a ++ CodePoint.ofChar ':' :: (b ++ (t ++ rest)))
    have hassoc : CodePoint.ofChar '"' :: (k ++ CodePoint.ofChar '"' ::
        (a ++ CodePoint.ofChar ':' :: (b ++ t))) ++ rest =
        CodePoint.ofChar '"' :: (k ++ CodePoint.ofChar '"' ::
          (a ++ CodePoint.ofChar ':' :: (b ++ (t ++ rest)))) := by simp
    rw [hassoc, readMember]
    dsimp only
    rw [if_pos rfl, hkey]
    dsimp only
    rw [skipBlanks_append ha, skipBlanks_cons (by decide)]
    dsimp only
    rw [if_pos rfl, skipBlanks_append hb, (hstarts t v hv).skipBlanks, hvalue]
    rfl

/-! ## Values -/

lemma Listed.starts {α : Type} {p : Text → α → Prop} {opening close : CodePoint}
    (hopening : opening = '[' ∨ opening = '\x7b') {t : Text} {vs : List α}
    (h : Listed p opening close t vs) : Starts t := by
  cases h <;> refine ⟨_, _, rfl, ?_⟩ <;> rcases hopening with rfl | rfl <;> decide

lemma IsForm.starts {dialect : Dialect} {inside : Option (Text → Json → Prop)} {t : Text} {v : Json}
    (h : IsForm dialect inside t v) : Starts t := by
  cases h with
  | word h => exact (startsPlainly_word h).starts
  | number hn _ _ => exact (startsPlainly_number hn _).starts
  | string _ => exact ⟨_, _, rfl, by decide, by decide, by decide⟩
  | array h => exact h.starts (.inl rfl)
  | object h => exact h.starts (.inr rfl)

lemma IsValue.starts {dialect : Dialect} {nesting : Nat} {t : Text} {v : Json}
    (h : IsValue dialect nesting t v) : Starts t := by
  cases nesting with
  | zero => exact IsForm.starts h
  | succ nesting => exact IsForm.starts h

section

variable {dialect : Dialect} {rounds nesting : Nat}

lemma readValue_of_startsPlainly {t : Text} (h : StartsPlainly t) :
    readValue dialect rounds nesting t = readScalar dialect t := by
  obtain ⟨c, rest, rfl, hc⟩ := h.exists_cons
  rw [readValue.eq_def]
  dsimp only
  rw [if_neg (ne_of_isPlainHead hc (by decide)), if_neg (ne_of_isPlainHead hc (by decide)),
    if_neg (ne_of_isPlainHead hc (by decide))]

lemma StartsPlainly.append {t : Text} (h : StartsPlainly t) (rest : Text) :
    StartsPlainly (t ++ rest) := by
  obtain ⟨c, tail, rfl, hc⟩ := h.exists_cons
  exact hc

lemma readValue_word {w : String} {v : Json} (h : (w, v) ∈ words dialect) (rest : Text) :
    readValue dialect rounds nesting (Text.ofString w ++ rest) = some (v, rest) := by
  rw [readValue_of_startsPlainly ((startsPlainly_word h).append rest), readScalar_word h]

lemma readValue_number {n : Numeral} (hn : n.IsProper) {letter : CodePoint}
    (hletter : letter = 'e' ∨ letter = 'E') {rest : Text} (hrest : Stops rest) :
    readValue dialect rounds nesting (n.text letter ++ rest) = n.toJson?.map fun v => (v, rest) := by
  rw [readValue_of_startsPlainly ((startsPlainly_number hn letter).append rest),
    readScalar_number hn hletter hrest.ends]

lemma readValue_string {t : Text} {ps : List Piece} (h : Spells t ps) (rest : Text) :
    readValue dialect rounds nesting
        (CodePoint.ofChar '"' :: (t ++ [CodePoint.ofChar '"']) ++ rest) =
      some (.string (joined ps), rest) := by
  have hassoc : CodePoint.ofChar '"' :: (t ++ [CodePoint.ofChar '"']) ++ rest =
      CodePoint.ofChar '"' :: (t ++ CodePoint.ofChar '"' :: rest) := by simp
  rw [hassoc, readValue.eq_def]
  dsimp only
  rw [if_pos rfl, readString_eq h]
  rfl

/-- A value is read from the beginning of any text that may go on after a value. -/
theorem readValue_eq {t : Text} {v : Json} (h : IsValue dialect nesting t v)
    (hrounds : t.length ≤ rounds) {rest : Text} (hrest : Stops rest) :
    readValue dialect rounds nesting (t ++ rest) = some (v, rest) := by
  induction nesting generalizing t v rest with
  | zero =>
    cases h with
    | word h => exact readValue_word h rest
    | number hn hletter hv => rw [readValue_number hn hletter hrest, hv, Option.map_some]
    | string h => exact readValue_string h rest
  | succ nesting ih =>
    have hstarts : ∀ t v, IsValue dialect nesting t v → Starts t := fun _ _ => IsValue.starts
    have hitem : ∀ t v, IsValue dialect nesting t v → t.length ≤ rounds → ∀ rest, Stops rest →
        readValue dialect rounds nesting (t ++ rest) = some (v, rest) :=
      fun _ _ h hbound _ hrest => ih h hbound hrest
    cases h with
    | word h => exact readValue_word h rest
    | number hn hletter hv => rw [readValue_number hn hletter hrest, hv, Option.map_some]
    | string h => exact readValue_string h rest
    | array h =>
      obtain ⟨body, rfl, hlist⟩ := readList_eq (.inl rfl) hstarts hitem h hrounds rest
      rw [List.cons_append, readValue.eq_def]
      dsimp only
      rw [if_neg (by decide), if_pos rfl, hlist]
      rfl
    | object h =>
      have hmember : ∀ t m, IsMember (IsValue dialect nesting) t m → t.length ≤ rounds →
          ∀ rest, Stops rest →
            readMember (readValue dialect rounds nesting) (t ++ rest) = some (m, rest) :=
        fun _ _ h hbound _ hrest => readMember_eq hstarts hitem h hbound hrest
      obtain ⟨body, rfl, hlist⟩ :=
        readList_eq (.inr rfl) (fun _ _ => IsMember.starts) hmember h hrounds rest
      rw [List.cons_append, readValue.eq_def]
      dsimp only
      rw [if_neg (by decide), if_neg (by decide), if_pos rfl, hlist]
      rfl

/-- The reader gives the value of a JSON text. -/
theorem read?_eq_some {t : Text} {v : Json} (h : IsText dialect t v) :
    read? dialect t = some v := by
  obtain ⟨a, w, b, rfl, ha, hb, hw⟩ := h
  have hstops : Stops b := by
    intro c hc
    exact .inl (hb c (List.mem_of_mem_head? hc))
  have hlength : w.length ≤ (a ++ (w ++ b)).length := by
    simp only [List.length_append]
    omega
  have hend : skipBlanks b = [] := by
    rw [← List.append_nil b, skipBlanks_append hb]
    rfl
  rw [read?, skipBlanks_append ha, hw.starts.skipBlanks, readValue_eq hw hlength hstops]
  dsimp only
  rw [hend]
  rfl

end

end Json

end Courier
