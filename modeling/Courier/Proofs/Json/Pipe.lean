import Courier.Proofs.Json.Writing

/-!
# Escaped pipes

The pipes of a JSON text stand inside strings only, so an escape can take the place of every one of
them: the text denotes the same value and has no pipe any more. The proof goes over the grammar, one
production after the other.
-/

namespace Courier

namespace Json

/-! ## Strings -/

/-- The text with an escape in place of every pipe. -/
def escapePipes (t : Text) : Text :=
  t.flatMap fun c : CodePoint => if c = '|' then Text.ofString "\\u007c" else [c]

/-- A piece for a pipe is now an escape. -/
def Piece.escapePipe (p : Piece) : Piece := if p.point = '|' then ⟨p.point, true⟩ else p

lemma escapePipes_append (a b : Text) : escapePipes (a ++ b) = escapePipes a ++ escapePipes b :=
  List.flatMap_append

lemma escapePipes_cons {c : CodePoint} (h : c ≠ '|') (t : Text) :
    escapePipes (c :: t) = c :: escapePipes t := by
  simp [escapePipes, h]

lemma escapePipes_eq_self {t : Text} (h : CodePoint.ofChar '|' ∉ t) : escapePipes t = t := by
  induction t with
  | nil => rfl
  | cons c t ih =>
    rw [List.mem_cons, not_or] at h
    rw [escapePipes_cons (Ne.symm h.1), ih h.2]

lemma pipe_notMem_escapePipes (t : Text) : CodePoint.ofChar '|' ∉ escapePipes t := by
  intro hmem
  obtain ⟨c, -, hc⟩ := List.mem_flatMap.mp hmem
  split at hc
  · exact absurd hc (by decide)
  · next hne => exact hne (List.mem_singleton.mp hc).symm

lemma point_escapePipe (p : Piece) : p.escapePipe.point = p.point := by
  unfold Piece.escapePipe
  split <;> rfl

lemma joins_escapePipe (p q : Piece) : p.escapePipe.joins q.escapePipe = p.joins q := by
  -- A pipe is neither half of a code point.
  have hhigh : (p.escapePipe.isUnit && p.point.isHighSurrogate) =
      (p.isUnit && p.point.isHighSurrogate) := by
    by_cases hp : p.point = '|'
    · rw [hp, show (CodePoint.ofChar '|').isHighSurrogate = false by decide, Bool.and_false,
        Bool.and_false]
    · rw [Piece.escapePipe, if_neg hp]
  have hlow : (q.escapePipe.isUnit && q.point.isLowSurrogate) =
      (q.isUnit && q.point.isLowSurrogate) := by
    by_cases hq : q.point = '|'
    · rw [hq, show (CodePoint.ofChar '|').isLowSurrogate = false by decide, Bool.and_false,
        Bool.and_false]
    · rw [Piece.escapePipe, if_neg hq]
  rw [Piece.joins, Piece.joins, point_escapePipe, point_escapePipe, hhigh, hlow]

lemma joined_map_escapePipe (ps : List Piece) : joined (ps.map Piece.escapePipe) = joined ps := by
  induction ps using joined.induct with
  | case1 => rfl
  | case2 p => simp [joined, point_escapePipe]
  | case3 p q ps hjoins ih =>
    rw [joined_pair hjoins, List.map_cons, List.map_cons,
      joined_pair (by rw [joins_escapePipe, hjoins]), point_escapePipe, point_escapePipe, ih]
  | case4 p q ps hjoins ih =>
    rw [List.map_cons] at ih
    rw [List.map_cons, List.map_cons, joined, joined, joins_escapePipe, if_neg hjoins,
      if_neg hjoins, point_escapePipe, ih]

lemma simpleEscape?_ne_pipe {e c : CodePoint} (h : simpleEscape? e = some c) :
    e ≠ '|' ∧ c ≠ '|' := by
  unfold simpleEscape? at h
  split_ifs at h with hself hb hf hn hr ht
  · obtain rfl := Option.some.inj h
    rcases hself with rfl | rfl | rfl <;> decide
  all_goals
    subst_vars
    obtain rfl := Option.some.inj h
    decide

lemma unitOf?_ne_pipe {a b c d u : CodePoint} (h : unitOf? a b c d = some u) {e : CodePoint}
    (he : e ∈ [a, b, c, d]) : e ≠ '|' := by
  rintro rfl
  exact absurd (unitOf?_eq_some h _ he) (by decide)

/-- Escaping the pipes of a spelling changes nothing of what it denotes. -/
lemma Spells.escapePipes {t : Text} {ps : List Piece} (h : Spells t ps) :
    Spells (escapePipes t) (ps.map Piece.escapePipe) := by
  have hslash : CodePoint.ofChar '\\' ≠ '|' := by decide
  induction h with
  | nil => exact .nil
  | @plain c t ps hquote hbackslash hcontrol _ ih =>
    by_cases hpipe : c = '|'
    · -- The only place where the spelling changes.
      subst hpipe
      exact .unit (by decide) ih
    · rw [escapePipes_cons hpipe, List.map_cons, Piece.escapePipe, if_neg hpipe]
      exact .plain hquote hbackslash hcontrol ih
  | @simple e c t ps he _ ih =>
    obtain ⟨hletter, hpoint⟩ := simpleEscape?_ne_pipe he
    rw [escapePipes_cons hslash, escapePipes_cons hletter, List.map_cons, Piece.escapePipe,
      if_neg hpoint]
    exact .simple he ih
  | @unit a b c d u t ps hu _ ih =>
    have hne : ∀ e ∈ [a, b, c, d], e ≠ '|' := fun e he => unitOf?_ne_pipe hu he
    have hpiece : Piece.escapePipe ⟨u, true⟩ = ⟨u, true⟩ := by
      unfold Piece.escapePipe
      split <;> rfl
    rw [escapePipes_cons hslash, escapePipes_cons (by decide),
      escapePipes_cons (hne a (by simp)), escapePipes_cons (hne b (by simp)),
      escapePipes_cons (hne c (by simp)), escapePipes_cons (hne d (by simp)), List.map_cons, hpiece]
    exact .unit hu ih

/-! ## Numbers and words -/

lemma escapePipes_of_isBlank {b : Text} (hb : IsBlank b) : escapePipes b = b := by
  apply escapePipes_eq_self
  intro hmem
  exact absurd (hb _ hmem) (by decide)

lemma escapePipes_word {dialect : Dialect} {w : String} {v : Json} (h : (w, v) ∈ words dialect) :
    escapePipes (Text.ofString w) = Text.ofString w := by
  have hall : ∀ w ∈ (words .lenient).map (·.1), CodePoint.ofChar '|' ∉ Text.ofString w := by decide
  exact escapePipes_eq_self (hall w (mem_names h))

lemma escapePipes_number {n : Numeral} (hn : n.IsProper) {letter : CodePoint}
    (hletter : letter = 'e' ∨ letter = 'E') : escapePipes (n.text letter) = n.text letter := by
  have hdigit : ∀ c : CodePoint, c.isDigit = true → c ≠ '|' := by
    rintro c hc rfl
    exact absurd hc (by decide)
  apply escapePipes_eq_self
  intro hmem
  exact hn.forall_mem_text hletter hdigit (by decide) _ hmem rfl

/-! ## Arrays, objects and values -/

section

variable {α : Type} {p : Text → α → Prop}

lemma Separated.escapePipes (hp : ∀ t v, p t v → p (escapePipes t) v) {t : Text} {vs : List α}
    (h : Separated p t vs) : Separated p (escapePipes t) vs := by
  induction h with
  | last ha hv hb =>
    rw [escapePipes_append, escapePipes_append, escapePipes_of_isBlank ha,
      escapePipes_of_isBlank hb]
    exact .last ha (hp _ _ hv) hb
  | cons ha hv hb _ ih =>
    rw [escapePipes_append, escapePipes_append, escapePipes_append, escapePipes_of_isBlank ha,
      escapePipes_of_isBlank hb, escapePipes_cons (by decide)]
    exact .cons ha (hp _ _ hv) hb ih

lemma Listed.escapePipes (hp : ∀ t v, p t v → p (escapePipes t) v) {opening close : CodePoint}
    (hopening : opening ≠ '|') (hclose : close ≠ '|') {t : Text} {vs : List α}
    (h : Listed p opening close t vs) : Listed p opening close (escapePipes t) vs := by
  have hsingle : Json.escapePipes [close] = [close] := escapePipes_cons hclose []
  cases h with
  | empty hb =>
    rw [escapePipes_cons hopening, escapePipes_append, escapePipes_of_isBlank hb, hsingle]
    exact .empty hb
  | items hvs =>
    rw [escapePipes_cons hopening, escapePipes_append, hsingle]
    exact .items (hvs.escapePipes hp)

end

lemma IsMember.escapePipes {value : Text → Json → Prop}
    (hvalue : ∀ t v, value t v → value (escapePipes t) v) {t : Text} {member : Text × Json}
    (h : IsMember value t member) : IsMember value (escapePipes t) member := by
  cases h with
  | mk hk ha hb hv =>
    rw [escapePipes_cons (by decide), escapePipes_append, escapePipes_cons (by decide),
      escapePipes_append, escapePipes_of_isBlank ha, escapePipes_cons (by decide),
      escapePipes_append, escapePipes_of_isBlank hb, ← joined_map_escapePipe]
    exact .mk hk.escapePipes ha hb (hvalue _ _ hv)

lemma IsForm.escapePipes {dialect : Dialect} {inside : Option (Text → Json → Prop)}
    (hinside : ∀ value ∈ inside, ∀ t v, value t v → value (escapePipes t) v) {t : Text} {v : Json}
    (h : IsForm dialect inside t v) : IsForm dialect inside (escapePipes t) v := by
  cases h with
  | word h =>
    rw [escapePipes_word h]
    exact .word h
  | number hn hletter hv =>
    rw [escapePipes_number hn hletter]
    exact .number hn hletter hv
  | string h =>
    rw [escapePipes_cons (by decide), escapePipes_append, ← joined_map_escapePipe]
    exact .string h.escapePipes
  | array h =>
    exact .array (h.escapePipes (hinside _ rfl) (by decide) (by decide))
  | object h =>
    have hmember : ∀ t m, IsMember _ t m → IsMember _ (Json.escapePipes t) m :=
      fun _ _ => IsMember.escapePipes (hinside _ rfl)
    exact .object (h.escapePipes hmember (by decide) (by decide))

/-- Escaping the pipes of a text changes nothing of what it denotes. -/
theorem IsValue.escapePipes {dialect : Dialect} {nesting : Nat} {t : Text} {v : Json}
    (h : IsValue dialect nesting t v) : IsValue dialect nesting (escapePipes t) v := by
  induction nesting generalizing t v with
  | zero => exact IsForm.escapePipes (by simp) h
  | succ nesting ih =>
    refine IsForm.escapePipes ?_ h
    intro value hvalue
    obtain rfl := Option.some.inj hvalue
    exact fun _ _ => ih

end Json

end Courier
