import Courier.Proofs.Statement.Grammar

/-!
# Why statements are refused

A statement may break several rules at once. This file orders them: the rules about the whole
statement come first, then the one about the first two segments, and then the leftmost faulty segment
decides, whose own rules are ordered again. The fault that is reported is the one that the order gives;
a well-formed statement is refused only for a URL with a surrogate.
-/

namespace Courier

namespace Statement

open Segment

/-- Whether a keyword opens one of the segments. -/
def Uses (segments : List Text) (k : Keyword) : Prop :=
  ∃ segment ∈ segments, k.name ++ [space] <+: segment

/-- The fault of the leftmost faulty segment: it is faulty after the segments before it, and none of
those is faulty after the ones before that. -/
def LeftmostFault (segments : List Text) (fault : Fault) : Prop :=
  ∃ earlier segment later, segments = earlier ++ segment :: later ∧
    Draft.Faulty (Uses earlier) segment fault ∧
      ∀ before other after, earlier = before ++ other :: after →
        ∀ fault', ¬ Draft.Faulty (Uses before) other fault'

/-- The fault of a statement, one case for each rule. A rule applies only where those before it are
kept. -/
inductive Refused : Option Text → Fault → Prop
  | notText : Refused none .invalidInput
  | empty : Refused (some []) .emptyInput
  | boundary {statement : Text}
    (h : statement.head? = some space ∨ statement.getLast? = some space) :
    Refused (some statement) .boundarySpacing
  | pipes {statement : Text} (hne : statement ≠ []) (hhead : statement.head? ≠ some space)
    (hlast : statement.getLast? ≠ some space)
    (h : ∀ segments, segments ≠ [] → (∀ segment ∈ segments, IsProper segment) →
      statement ≠ joined segments) :
    Refused (some statement) .pipeSpacing
  | noMethod {first : Text} {others : List Text}
    (hproper : ∀ segment ∈ first :: others, IsProper segment)
    (h : ¬ Keyword.http.name <+: first) :
    Refused (some (joined (first :: others))) .missingHttpKeyword
  | noSecond {first : Text} (hproper : IsProper first) (hfirst : Keyword.http.name <+: first) :
    Refused (some (joined [first])) .missingUrlKeyword
  | noUrl {first second : Text} {others : List Text}
    (hproper : ∀ segment ∈ first :: second :: others, IsProper segment)
    (hfirst : Keyword.http.name <+: first) (h : ¬ Keyword.url.name <+: second) :
    Refused (some (joined (first :: second :: others))) .missingUrlKeyword
  | segment {first second : Text} {others : List Text} {fault : Fault}
    (hproper : ∀ segment ∈ first :: second :: others, IsProper segment)
    (hfirst : Keyword.http.name <+: first) (hsecond : Keyword.url.name <+: second)
    (h : LeftmostFault (first :: second :: others) fault) :
    Refused (some (joined (first :: second :: others))) fault

/-! ## The leftmost faulty segment -/

/-- The keywords of entries are those that open their segments. -/
lemma uses_map_entry_iff {entries : List (Keyword × Text)} {k : Keyword} :
    Uses (entries.map entry) k ↔ k ∈ entries.map (·.1) := by
  constructor
  · rintro ⟨segment, hsegment, hopens⟩
    obtain ⟨e, he, rfl⟩ := List.mem_map.1 hsegment
    obtain rfl := opens_entry_iff.1 hopens
    exact List.mem_map_of_mem he
  · intro h
    obtain ⟨e, he, rfl⟩ := List.mem_map.1 h
    exact ⟨entry e, List.mem_map_of_mem he, opens_entry_iff.2 rfl⟩

variable {draft : Draft} {segments : List Text} {fault : Fault}

/-- After segments that were taken up, a draft refuses a segment exactly when it is faulty. -/
lemma add_eq_error_iff_of_addAll (h : Draft.addAll {} segments = .ok draft) {segment : Text} :
    draft.add segment = .error fault ↔ Draft.Faulty (Uses segments) segment fault := by
  obtain ⟨entries, rfl, -, hholds⟩ := Draft.holds_nil.addAll h
  rw [List.nil_append] at hholds
  have huses : Uses (entries.map entry) = (· ∈ entries.map (·.1)) :=
    funext fun k => propext uses_map_entry_iff
  rw [hholds.add_eq_error_iff, huses]

/-- None of the segments that were taken up is faulty. -/
lemma not_faulty_of_addAll (h : Draft.addAll {} segments = .ok draft) {before after : List Text}
    {segment : Text} (hsegments : segments = before ++ segment :: after) :
    ¬ Draft.Faulty (Uses before) segment fault := by
  subst hsegments
  intro hfaulty
  rw [Draft.addAll_append] at h
  cases hbefore : Draft.addAll {} before with
  | error fault => simp [hbefore, Except.bind] at h
  | ok middle =>
    have hadd := (add_eq_error_iff_of_addAll hbefore).2 hfaulty
    simp [hbefore, Except.bind, Draft.addAll, hadd, bind] at h

/-- Segments are refused with the fault of the leftmost faulty one. -/
lemma addAll_eq_error_iff_leftmostFault :
    Draft.addAll {} segments = .error fault ↔ LeftmostFault segments fault := by
  have leftmost : ∀ {segments : List Text} {fault : Fault},
      Draft.addAll {} segments = .error fault → LeftmostFault segments fault := by
    intro segments fault h
    obtain ⟨earlier, segment, later, draft, rfl, hearlier, hsegment⟩ :=
      Draft.addAll_eq_error_iff.1 h
    exact ⟨earlier, segment, later, rfl, (add_eq_error_iff_of_addAll hearlier).1 hsegment,
      fun before other after heq fault' => not_faulty_of_addAll hearlier heq⟩
  refine ⟨leftmost, ?_⟩
  rintro ⟨earlier, segment, later, rfl, hfaulty, hnone⟩
  cases hearlier : Draft.addAll {} earlier with
  | error other =>
    -- Then one of the segments before would be faulty already.
    obtain ⟨before, segment', after, heq, hfaulty', -⟩ := leftmost hearlier
    exact absurd hfaulty' (hnone before segment' after heq other)
  | ok draft =>
    exact Draft.addAll_eq_error_iff.2 ⟨earlier, segment, later, draft, rfl, hearlier,
      (add_eq_error_iff_of_addAll hearlier).2 hfaulty⟩

/-! ## Statements -/

lemma checkOrder_eq_error_iff {first : Text} {others : List Text} :
    checkOrder (first :: others) = .error fault ↔
      (¬ Keyword.http.name <+: first ∧ fault = .missingHttpKeyword) ∨
      (Keyword.http.name <+: first ∧ others = [] ∧ fault = .missingUrlKeyword) ∨
      (Keyword.http.name <+: first ∧
        (∃ second rest, others = second :: rest ∧ ¬ Keyword.url.name <+: second) ∧
        fault = .missingUrlKeyword) := by
  simp only [checkOrder, List.isPrefixOf_iff_prefix]
  by_cases hfirst : Keyword.http.name <+: first
  · cases others with
    | nil => simp [hfirst, @eq_comm _ fault .missingUrlKeyword]
    | cons second others =>
      by_cases hsecond : Keyword.url.name <+: second
      · simp [hfirst, hsecond]
      · simp [hfirst, hsecond, @eq_comm _ fault .missingUrlKeyword]
  · simp [hfirst, @eq_comm _ fault .missingHttpKeyword]

lemma checkOrder_eq_ok_iff {first : Text} {others : List Text} :
    checkOrder (first :: others) = .ok () ↔
      ∃ second rest, others = second :: rest ∧ Keyword.http.name <+: first ∧
        Keyword.url.name <+: second := by
  simp only [checkOrder, List.isPrefixOf_iff_prefix]
  by_cases hfirst : Keyword.http.name <+: first
  · cases others with
    | nil => simp [hfirst]
    | cons second others => by_cases hsecond : Keyword.url.name <+: second <;> simp [hfirst, hsecond]
  · simp [hfirst]

/-- When the segments were taken up in order, there is a method, and the descriptor exists. -/
lemma finish_of_addAll {statement : Text} (hsplit : split statement = .ok segments)
    (horder : checkOrder segments = .ok ()) (hadd : Draft.addAll {} segments = .ok draft) :
    draft.method ≠ none ∧ ∃ d, draft.finish = .ok d := by
  obtain ⟨-, hproper, -⟩ := split_eq_ok_iff.1 hsplit
  obtain ⟨parts, -, -, hholds⟩ := exists_parts_of_addAll hproper horder hadd
  exact ⟨by simp [hholds.fields.1], hholds.exists_finish⟩

lemma read_eq_error_iff {statement : Text} :
    read statement = .error fault ↔
      split statement = .error fault ∨
      ∃ segments, split statement = .ok segments ∧
        (checkOrder segments = .error fault ∨
          checkOrder segments = .ok () ∧ Draft.addAll {} segments = .error fault) := by
  unfold read
  cases hsplit : split statement with
  | error other => simp [bind, Except.bind]
  | ok segments =>
    cases horder : checkOrder segments with
    | error other => simp [bind, Except.bind, horder]
    | ok _ =>
      cases hadd : Draft.addAll {} segments with
      | error other => simp [bind, Except.bind, horder, hadd]
      | ok draft =>
        -- Finishing never fails here, so it adds no fault of its own.
        obtain ⟨d, hd⟩ := (finish_of_addAll hsplit horder hadd).2
        simp [bind, Except.bind, horder, hadd, hd]

lemma read_eq_error_iff_refused {statement : Text} :
    read statement = .error fault ↔ Refused (some statement) fault := by
  rw [read_eq_error_iff]
  constructor
  · rintro (h | ⟨segments, hsplit, h⟩)
    · rcases split_eq_error_iff.1 h with
        ⟨rfl, rfl⟩ | ⟨-, hends, rfl⟩ | ⟨hne, hhead, hlast, hnot, rfl⟩
      · exact .empty
      · exact .boundary hends
      · exact .pipes hne hhead hlast hnot
    · obtain ⟨hne, hproper, rfl⟩ := split_eq_ok_iff.1 hsplit
      obtain ⟨first, others, rfl⟩ := List.exists_cons_of_ne_nil hne
      rcases h with h | ⟨horder, hadd⟩
      · rcases checkOrder_eq_error_iff.1 h with
          ⟨hfirst, rfl⟩ | ⟨hfirst, rfl, rfl⟩ | ⟨hfirst, ⟨second, rest, rfl, hsecond⟩, rfl⟩
        · exact .noMethod hproper hfirst
        · exact .noSecond (hproper first (by simp)) hfirst
        · exact .noUrl hproper hfirst hsecond
      · obtain ⟨second, rest, rfl, hfirst, hsecond⟩ := checkOrder_eq_ok_iff.1 horder
        exact .segment hproper hfirst hsecond (addAll_eq_error_iff_leftmostFault.1 hadd)
  · have hsplit : ∀ {segments : List Text}, segments ≠ [] →
        (∀ segment ∈ segments, IsProper segment) → split (joined segments) = .ok segments :=
      fun hne hproper => split_eq_ok_iff.2 ⟨hne, hproper, rfl⟩
    rintro (_ | _ | h | ⟨hne, hhead, hlast, h⟩ | ⟨hproper, h⟩ | ⟨hproper, hfirst⟩ |
      ⟨hproper, hfirst, h⟩ | ⟨hproper, hfirst, hsecond, h⟩)
    · exact .inl (split_eq_error_iff.2 (.inl ⟨rfl, rfl⟩))
    · have hne : statement ≠ [] := by
        rintro rfl
        simp at h
      exact .inl (split_eq_error_iff.2 (.inr (.inl ⟨hne, h, rfl⟩)))
    · exact .inl (split_eq_error_iff.2 (.inr (.inr ⟨hne, hhead, hlast, h, rfl⟩)))
    · exact .inr ⟨_, hsplit (by simp) hproper, .inl (checkOrder_eq_error_iff.2 (.inl ⟨h, rfl⟩))⟩
    · exact .inr ⟨_, hsplit (by simp) (by simpa using hproper),
        .inl (checkOrder_eq_error_iff.2 (.inr (.inl ⟨hfirst, rfl, rfl⟩)))⟩
    · exact .inr ⟨_, hsplit (by simp) hproper,
        .inl (checkOrder_eq_error_iff.2 (.inr (.inr ⟨hfirst, ⟨_, _, rfl, h⟩, rfl⟩)))⟩
    · exact .inr ⟨_, hsplit (by simp) hproper,
        .inr ⟨checkOrder_eq_ok_iff.2 ⟨_, _, rfl, hfirst, hsecond⟩,
          addAll_eq_error_iff_leftmostFault.2 h⟩⟩

lemma parse_eq_fault_iff_refused {statement : Option Text} :
    parse statement = .error (.fault fault) ↔ Refused statement fault := by
  cases statement with
  | none =>
    simp only [parse, Except.error.injEq, Rejection.fault.injEq]
    exact ⟨fun h => h ▸ .notText, fun h => by cases h; rfl⟩
  | some statement =>
    rw [← read_eq_error_iff_refused]
    constructor
    · intro h
      cases hread : read statement with
      | error other =>
        rw [parse_of_read_eq_error hread] at h
        simpa using h
      | ok d =>
        obtain ⟨parts, -, -, -, hparse⟩ := parse_of_read_eq_ok hread
        rw [hparse] at h
        split at h <;> simp at h
    · exact parse_of_read_eq_error

/-- A statement is reported invalid if and only if it follows the grammar but for a surrogate in its
URL. -/
lemma parse_eq_invalid_iff {statement : Text} {reports : List Report} :
    parse (some statement) = .error (.invalid reports) ↔
      ∃ (parts : Parts) (d : Descriptor), parts.IsProper ∧ Text.hasSurrogate parts.url = true ∧
        parts.text = statement ∧ parts.Describes d ∧ reports = urlReports := by
  constructor
  · intro h
    cases hread : read statement with
    | error fault => simp [parse_of_read_eq_error hread] at h
    | ok d =>
      obtain ⟨parts, hparts, htext, hd, hparse⟩ := parse_of_read_eq_ok hread
      rw [hparse] at h
      split at h
      · next hsurrogate =>
        exact ⟨parts, d, hparts, hsurrogate, htext, hd, by simpa [eq_comm] using h⟩
      · simp at h
  · rintro ⟨parts, d, hparts, hsurrogate, htext, hd, rfl⟩
    obtain ⟨parts', hparts', htext', -, hparse⟩ :=
      parse_of_read_eq_ok (read_eq_ok_iff.2 ⟨parts, hparts, htext, hd⟩)
    obtain rfl := Parts.text_injOn hparts hparts' (htext.trans htext'.symm)
    simpa [hsurrogate] using hparse

/-- **Every refusal has exactly the fault that the order of the rules gives.** Besides, a well-formed
statement is refused for a URL with a surrogate and for nothing else, and segments that were taken up
in order always give a descriptor: a draft cannot lack its method then. -/
theorem parse_error_iff_first_broken_rule (statement : Option Text) :
    (∀ fault, parse statement = .error (.fault fault) ↔ Refused statement fault) ∧
    (∀ reports, parse statement = .error (.invalid reports) ↔
      ∃ (parts : Parts) (d : Descriptor), parts.IsProper ∧ Text.hasSurrogate parts.url = true ∧
        statement = some parts.text ∧ parts.Describes d ∧ reports = urlReports) ∧
    ∀ text segments draft, statement = some text → split text = .ok segments →
      checkOrder segments = .ok () → Draft.addAll {} segments = .ok draft →
        draft.method ≠ none ∧ ∃ d, draft.finish = .ok d := by
  refine ⟨fun fault => parse_eq_fault_iff_refused, fun reports => ?_,
    fun text segments draft _ => finish_of_addAll⟩
  cases statement with
  | none => simp [parse]
  | some statement => simp only [parse_eq_invalid_iff, Option.some.injEq, @eq_comm _ statement]

end Statement

end Courier
