import Courier.Text.CodePoint
import Mathlib.Tactic.Common

/-!
# The words of a text

The words of a text are its longest runs of code points outside a class. A text determines them: they
are the only texts that are not empty, hold no code point of the class and make up the text when one
or more code points of the class are put between them, and any number of these around them.
-/

namespace Courier

namespace Text

section

variable {inClass : CodePoint → Bool}

/-- That a text consists of words, with code points of a class between and around them. -/
inductive IsWords (inClass : CodePoint → Bool) : Text → List Text → Prop
  | nil {gap : Text} (hgap : ∀ c ∈ gap, inClass c = true) : IsWords inClass gap []
  | cons {gap word rest : Text} {others : List Text} (hgap : ∀ c ∈ gap, inClass c = true)
      (hne : word ≠ []) (hword : ∀ c ∈ word, inClass c = false)
      (hstop : ∀ c ∈ rest.head?, inClass c = true) (hrest : IsWords inClass rest others) :
      IsWords inClass (gap ++ (word ++ rest)) (word :: others)

/-! ## The words of a text that is made up of words -/

lemma words_append_of_pos {gap : Text} (hgap : ∀ c ∈ gap, inClass c = true) (t : Text) :
    words inClass (gap ++ t) = words inClass t := by
  induction gap with
  | nil => rfl
  | cons c gap ih =>
    rw [List.forall_mem_cons] at hgap
    have hsplit := splitWhere_cons_of_pos hgap.1 (gap ++ t)
    rw [List.cons_append, words, hsplit, ← ih hgap.2]
    rfl

lemma splitWhere_append_of_neg {word t part : Text} {parts : List Text}
    (hword : ∀ c ∈ word, inClass c = false) (ht : splitWhere inClass t = part :: parts) :
    splitWhere inClass (word ++ t) = (word ++ part) :: parts := by
  induction word with
  | nil => exact ht
  | cons c word ih =>
    rw [List.forall_mem_cons] at hword
    obtain ⟨first, others, hfirst, hcons⟩ := splitWhere_cons_of_neg hword.1 (word ++ t)
    rw [ih hword.2, List.cons.injEq] at hfirst
    rw [List.cons_append, hcons, ← hfirst.1, ← hfirst.2]
    rfl

/-- A text that does not begin with a word has an empty first part. -/
lemma exists_splitWhere_eq {t : Text} (ht : ∀ c ∈ t.head?, inClass c = true) :
    ∃ parts, splitWhere inClass t = [] :: parts := by
  cases t with
  | nil => exact ⟨[], rfl⟩
  | cons c t => exact ⟨_, splitWhere_cons_of_pos (ht c rfl) t⟩

lemma words_append_of_neg {word rest : Text} (hne : word ≠ [])
    (hword : ∀ c ∈ word, inClass c = false) (hstop : ∀ c ∈ rest.head?, inClass c = true) :
    words inClass (word ++ rest) = word :: words inClass rest := by
  obtain ⟨parts, hparts⟩ := exists_splitWhere_eq hstop
  have hsplit := splitWhere_append_of_neg hword hparts
  rw [words, words, hsplit, hparts, List.append_nil]
  simp [hne]

lemma IsWords.words_eq {t : Text} {ws : List Text} (h : IsWords inClass t ws) :
    words inClass t = ws := by
  induction h with
  | @nil gap hgap =>
    have happend := words_append_of_pos hgap []
    rw [List.append_nil] at happend
    rw [happend]
    rfl
  | cons hgap hne hword hstop _ ih =>
    rw [words_append_of_pos hgap, words_append_of_neg hne hword hstop, ih]

/-! ## Every text is made up of words -/

lemma IsWords.cons_of_pos {c : CodePoint} (hc : inClass c = true) {t : Text} {ws : List Text}
    (h : IsWords inClass t ws) : IsWords inClass (c :: t) ws := by
  cases h with
  | nil hgap => exact .nil (List.forall_mem_cons.mpr ⟨hc, hgap⟩)
  | @cons gap word rest others hgap hne hword hstop hrest =>
    have hgap' : ∀ d ∈ c :: gap, inClass d = true := List.forall_mem_cons.mpr ⟨hc, hgap⟩
    exact .cons hgap' hne hword hstop hrest

lemma IsWords.cons_word {word rest : Text} {others : List Text} (hne : word ≠ [])
    (hword : ∀ c ∈ word, inClass c = false) (hstop : ∀ c ∈ rest.head?, inClass c = true)
    (hrest : IsWords inClass rest others) : IsWords inClass (word ++ rest) (word :: others) := by
  have hgap : ∀ c ∈ ([] : Text), inClass c = true := by simp
  exact .cons hgap hne hword hstop hrest

/-- A code point outside the class starts a word, or it becomes the first one of the word at the
beginning. -/
lemma IsWords.exists_cons_of_neg {c : CodePoint} (hc : inClass c = false) {t : Text}
    {ws : List Text} (h : IsWords inClass t ws) : ∃ ws', IsWords inClass (c :: t) ws' := by
  have halone : ∀ {rest : Text} {others : List Text}, (∀ d ∈ rest.head?, inClass d = true) →
      IsWords inClass rest others → IsWords inClass (c :: rest) ([c] :: others) := by
    intro rest others hstop hrest
    exact IsWords.cons_word (List.cons_ne_nil c []) (by simpa using hc) hstop hrest
  cases h with
  | nil hgap =>
    refine ⟨_, halone ?_ (.nil hgap)⟩
    intro d hd
    exact hgap d (List.mem_of_mem_head? hd)
  | @cons gap word rest others hgap hne hword hstop hrest =>
    cases gap with
    | nil =>
      refine ⟨(c :: word) :: others, ?_⟩
      exact IsWords.cons_word (List.cons_ne_nil c word) (List.forall_mem_cons.mpr ⟨hc, hword⟩)
        hstop hrest
    | cons d gap =>
      refine ⟨_, halone ?_ (.cons hgap hne hword hstop hrest)⟩
      intro e he
      obtain rfl : d = e := by simpa using he
      exact hgap d List.mem_cons_self

lemma exists_isWords (inClass : CodePoint → Bool) (t : Text) : ∃ ws, IsWords inClass t ws := by
  induction t with
  | nil => exact ⟨[], .nil (by simp)⟩
  | cons c t ih =>
    obtain ⟨ws, hws⟩ := ih
    cases hc : inClass c with
    | true => exact ⟨ws, hws.cons_of_pos hc⟩
    | false => exact hws.exists_cons_of_neg hc

/-- The words of a text are what it is made up of. -/
theorem words_eq_iff {t : Text} {ws : List Text} : words inClass t = ws ↔ IsWords inClass t ws := by
  constructor
  · rintro rfl
    obtain ⟨ws, hws⟩ := exists_isWords inClass t
    rw [hws.words_eq]
    exact hws
  · exact IsWords.words_eq

lemma IsWords.unique {t : Text} {ws ws' : List Text} (h : IsWords inClass t ws)
    (h' : IsWords inClass t ws') : ws = ws' := by
  rw [← h.words_eq]
  exact h'.words_eq

/-- Stripping leaves what stands between the code points of the class. -/
lemma strip_append_of_neg {gap t : Text} (hgap : ∀ c ∈ gap, inClass c = true)
    (ht : ∀ c ∈ t, inClass c = false) : strip inClass (gap ++ t) = t := by
  have hdrop : ∀ {s : Text}, (∀ c ∈ s, inClass c = false) → s.dropWhile inClass = s := by
    intro s hs
    cases s with
    | nil => rfl
    | cons c s => rw [List.dropWhile_cons_of_neg (by simp [hs c List.mem_cons_self])]
  have hreverse : ∀ c ∈ t.reverse, inClass c = false := fun c hc => ht c (List.mem_reverse.mp hc)
  rw [strip, List.dropWhile_append_of_pos hgap, hdrop ht, hdrop hreverse, List.reverse_reverse]

end

/-! ## The parts between the occurrences of a code point -/

section

variable {separator : CodePoint} {part : Text}

lemma splitOn_append (h : separator ∉ part) {t first : Text} {others : List Text}
    (ht : splitOn separator t = first :: others) :
    splitOn separator (part ++ t) = (part ++ first) :: others := by
  refine splitWhere_append_of_neg ?_ ht
  intro c hc
  rw [decide_eq_false_iff_not]
  rintro rfl
  exact h hc

lemma splitOn_of_notMem (h : separator ∉ part) : splitOn separator part = [part] := by
  have happend := splitOn_append h (splitWhere_nil (· = separator))
  rwa [List.append_nil] at happend

lemma splitOn_append_cons (h : separator ∉ part) (rest : Text) :
    splitOn separator (part ++ separator :: rest) = part :: splitOn separator rest := by
  have hcons : splitOn separator (separator :: rest) = [] :: splitOn separator rest :=
    splitWhere_cons_of_pos (decide_eq_true rfl) rest
  rw [splitOn_append h hcons, List.append_nil]

/-- Splitting undoes joining if there is a part and the separator is in none of them. -/
theorem splitOn_join {parts : List Text} (hne : parts ≠ [])
    (h : ∀ part ∈ parts, separator ∉ part) :
    splitOn separator (join [separator] parts) = parts := by
  induction parts with
  | nil => exact absurd rfl hne
  | cons part parts ih =>
    obtain ⟨hpart, hparts⟩ := List.forall_mem_cons.mp h
    cases parts with
    | nil => rw [join_singleton, splitOn_of_notMem hpart]
    | cons next parts =>
      rw [join_cons_cons, List.append_assoc, List.singleton_append, splitOn_append_cons hpart,
        ih (List.cons_ne_nil _ _) hparts]

end

end Text

end Courier
