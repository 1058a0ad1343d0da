import Courier.Statement.Segment
import Mathlib.Tactic.Common

/-!
# Splitting undoes joining

The split of a statement is a scan with a cursor that looks at code points around each pipe. This file
compares it with the plain description of what it should find: a statement is the list of its
segments joined by a spaced pipe, where each segment is *proper*, that is, not empty, without pipes
and without spaces at its ends. The scan finds exactly the list of proper segments of which its text
is the joined form.
-/

namespace Courier

namespace Segment

/-- A segment as it stands between two delimiters. -/
structure IsProper (segment : Text) : Prop where
  ne_nil : segment ≠ []
  pipe_notMem : pipe ∉ segment
  head?_ne : segment.head? ≠ some space
  getLast?_ne : segment.getLast? ≠ some space

instance (segment : Text) : Decidable (IsProper segment) :=
  decidable_of_iff (segment ≠ [] ∧ pipe ∉ segment ∧ segment.head? ≠ some space ∧
      segment.getLast? ≠ some space)
    ⟨fun ⟨h, h', h'', h'''⟩ => ⟨h, h', h'', h'''⟩, fun ⟨h, h', h'', h'''⟩ => ⟨h, h', h'', h'''⟩⟩

lemma space_ne_pipe : space ≠ pipe := by decide

/-- What has neither pipes nor spaces can be added to a segment. -/
lemma IsProper.append {segment added : Text} (h : IsProper segment) (hpipe : pipe ∉ added)
    (hspace : space ∉ added) : IsProper (segment ++ added) := by
  refine ⟨by simp [h.ne_nil], by simp [h.pipe_notMem, hpipe], ?_, ?_⟩
  · obtain ⟨c, rest, rfl⟩ := List.exists_cons_of_ne_nil h.ne_nil
    exact h.head?_ne
  · rw [List.getLast?_append]
    intro hlast
    rcases Option.or_eq_some_iff.1 hlast with hadded | ⟨-, hsegment⟩
    · exact hspace (List.mem_of_getLast? hadded)
    · exact h.getLast?_ne hsegment

/-! ## Joined segments -/

@[simp] lemma joined_singleton (segment : Text) : joined [segment] = segment :=
  Text.join_singleton _ _

lemma joined_cons_cons (segment next : Text) (segments : List Text) :
    joined (segment :: next :: segments) =
      segment ++ space :: pipe :: space :: joined (next :: segments) := by
  simp [joined, Text.join_cons_cons]

/-- The statement starts with its first segment. -/
lemma joined_cons (segment : Text) (segments : List Text) :
    ∃ rest, joined (segment :: segments) = segment ++ rest := by
  cases segments with
  | nil => exact ⟨[], by simp⟩
  | cons next segments => exact ⟨_, joined_cons_cons segment next segments⟩

lemma joined_ne_nil {segments : List Text} (h : segments ≠ [])
    (hs : ∀ segment ∈ segments, IsProper segment) : joined segments ≠ [] := by
  obtain ⟨segment, segments, rfl⟩ := List.exists_cons_of_ne_nil h
  obtain ⟨rest, hrest⟩ := joined_cons segment segments
  simp [hrest, (hs segment (by simp)).ne_nil]

lemma head?_joined_ne {segments : List Text} (h : segments ≠ [])
    (hs : ∀ segment ∈ segments, IsProper segment) : (joined segments).head? ≠ some space := by
  obtain ⟨segment, segments, rfl⟩ := List.exists_cons_of_ne_nil h
  obtain ⟨rest, hrest⟩ := joined_cons segment segments
  obtain ⟨c, segment, rfl⟩ := List.exists_cons_of_ne_nil (hs segment (by simp)).ne_nil
  simpa [hrest] using (hs (c :: segment) (by simp)).head?_ne

lemma getLast?_joined_ne {segments : List Text} (h : segments ≠ [])
    (hs : ∀ segment ∈ segments, IsProper segment) : (joined segments).getLast? ≠ some space := by
  induction segments with
  | nil => exact absurd rfl h
  | cons segment segments ih =>
    cases segments with
    | nil => simpa using (hs segment (by simp)).getLast?_ne
    | cons next segments =>
      have hs' : ∀ s ∈ next :: segments, IsProper s := fun s hmem => hs s (by simp [hmem])
      have hne := joined_ne_nil (by simp) hs'
      have hlast := ih (by simp) hs'
      rw [List.getLast?_eq_some_getLast hne] at hlast
      simpa [joined_cons_cons, List.getLast?_append, List.getLast?_cons,
        List.getLast?_eq_some_getLast hne] using hlast

/-! ## What the cursor sees

The text is cut at the cursor, or at the two ends of a segment, and the positions of the scan become
lengths of the parts. -/

lemma before?_length (left right : Text) {places : Nat} (h : 0 < places) :
    before? (left ++ right).toArray left.length places = left.reverse[places - 1]? := by
  unfold before?
  split
  · next hle =>
    have hlt : left.length - places < left.length := by omega
    rw [List.getElem?_toArray, List.getElem?_append_left hlt, List.getElem?_reverse (by omega)]
    congr 1
    omega
  · next hle => exact (List.getElem?_eq_none (by simp; omega)).symm

lemma after?_length (left right : Text) (places : Nat) :
    after? (left ++ right).toArray left.length places = right[places]? := by
  rw [after?, List.getElem?_toArray, List.getElem?_append_right (by omega),
    Nat.add_sub_cancel_left]

lemma between_length (left middle right : Text) :
    between (left ++ middle ++ right).toArray left.length (left ++ middle).length =
      if middle = [] then .error .pipeSpacing else .ok middle := by
  cases middle <;> simp [between]

lemma isSpaced_length_iff (left right : Text) :
    isSpaced (left ++ right).toArray left.length = true ↔
      (left.reverse[0]? = some space ∧ right[1]? = some space) ∧
        left.reverse[1]? ≠ some space ∧ right[2]? ≠ some space := by
  simp only [isSpaced, before?_length left right Nat.one_pos, before?_length left right Nat.two_pos,
    after?_length, Bool.and_eq_true, decide_eq_true_eq, bne_iff_ne]
  tauto

/-! ## The scan -/

/-- A scan fails on account of a pipe. -/
lemma scan_eq_error {text : Array CodePoint} {pos start : Nat} {found : List Text} {rest : Text}
    {fault : Fault} (h : scan text pos start found rest = .error fault) : fault = .pipeSpacing := by
  have between_error : ∀ {start stop : Nat} {fault : Fault},
      between text start stop = .error fault → fault = .pipeSpacing := by
    intro start stop fault h
    unfold between at h
    split at h <;> simp_all
  induction rest generalizing pos start found with
  | nil =>
    cases hb : between text start text.size with
    | ok segment => simp [scan, hb, bind, Except.bind, pure, Except.pure] at h
    | error other =>
      obtain rfl : other = fault := by simpa [scan, hb, bind, Except.bind] using h
      exact between_error hb
  | cons c rest ih =>
    rw [scan] at h
    split at h
    · split at h
      · split at h
        · exact ih h
        · next other hb =>
          obtain rfl : other = fault := by simpa using h
          exact between_error hb
      · exact (Except.error.inj h).symm
    · exact ih h

/-- The first pipe of a joined list stands behind the first segment. -/
lemma eq_of_append_pipe_eq_joined {current rest : Text} {segments : List Text}
    (hcurrent : pipe ∉ current) (hs : ∀ segment ∈ segments, IsProper segment)
    (h : current ++ pipe :: rest = joined segments) :
    ∃ segment next others, segments = segment :: next :: others ∧ current = segment ++ [space] ∧
      rest = space :: joined (next :: others) := by
  match segments with
  | [] => simp [joined] at h
  | [segment] =>
    have hpipe := (hs segment (by simp)).pipe_notMem
    rw [joined_singleton] at h
    exact absurd (h ▸ by simp : pipe ∈ segment) hpipe
  | segment :: next :: others =>
    have hpipe := (hs segment (by simp)).pipe_notMem
    have hcut : Text.cut? pipe (current ++ pipe :: rest) = some (current, rest) :=
      Text.cut?_eq_some_iff.2 ⟨rfl, hcurrent⟩
    have hcut' : Text.cut? pipe (current ++ pipe :: rest) =
        some (segment ++ [space], space :: joined (next :: others)) := by
      refine Text.cut?_eq_some_iff.2 ⟨by simp [h, joined_cons_cons], ?_⟩
      simpa [hpipe] using space_ne_pipe.symm
    obtain ⟨rfl, rfl⟩ := Prod.mk.inj (Option.some.inj (hcut.symm.trans hcut'))
    exact ⟨segment, next, others, rfl, rfl, rfl⟩

/-- Whether the part before a pipe is a segment with a space behind it, and the part behind the pipe
a space with no second one after it. -/
def IsDelimited (current rest segment others : Text) : Prop :=
  IsProper segment ∧ current = segment ++ [space] ∧ rest = space :: others ∧
    others.head? ≠ some space

/-- The scan passes a pipe at the end of a segment. -/
lemma scan_pipe {before current rest segment others : Text} (found : List Text)
    (h : IsDelimited current rest segment others) :
    scan (before ++ current ++ pipe :: rest).toArray (before ++ current).length before.length
        found (pipe :: rest) =
      scan (before ++ current ++ [pipe, space] ++ others).toArray
        (before ++ current ++ [pipe, space]).length
        (before ++ current ++ [pipe, space]).length (segment :: found) others := by
  obtain ⟨hproper, rfl, rfl, hothers⟩ := h
  have hspaced : isSpaced (before ++ (segment ++ [space]) ++ pipe :: space :: others).toArray
      (before ++ (segment ++ [space])).length = true := by
    rw [isSpaced_length_iff]
    have hlast : segment.reverse.head? ≠ some space := by simpa using hproper.getLast?_ne
    obtain ⟨c, reversed, hc⟩ := List.exists_cons_of_ne_nil
      (by simpa using hproper.ne_nil : segment.reverse ≠ [])
    rw [hc] at hlast
    cases others <;> simp_all
  have hbetween : between (before ++ (segment ++ [space]) ++ pipe :: space :: others).toArray
      before.length ((before ++ (segment ++ [space])).length - 1) = .ok segment := by
    have h := between_length before segment (space :: pipe :: space :: others)
    rw [if_neg hproper.ne_nil] at h
    simpa using h
  -- The cursor passes the pipe and then the space behind it.
  rw [scan, if_pos rfl, if_pos hspaced, hbetween]
  dsimp only
  rw [scan, if_neg space_ne_pipe]
  simp [Nat.add_assoc]

/-- The scan stops at any other pipe. -/
lemma scan_pipe_eq_error {before current rest : Text} (found : List Text)
    (hpipe : pipe ∉ current) (hhead : current.head? ≠ some space)
    (h : ∀ segment others, ¬ IsDelimited current rest segment others) :
    scan (before ++ current ++ pipe :: rest).toArray (before ++ current).length before.length
        found (pipe :: rest) = .error .pipeSpacing := by
  rw [scan, if_pos rfl]
  split
  · next hspaced =>
    obtain ⟨⟨hprev, hnext⟩, hprev', hnext'⟩ := (isSpaced_length_iff _ _).1 hspaced
    have hbetween : between (before ++ current ++ pipe :: rest).toArray before.length
        ((before ++ current).length - 1) = .error .pipeSpacing := by
      rcases List.eq_nil_or_concat current with rfl | ⟨segment, c, hc⟩
      · simp [between]
      · rw [List.concat_eq_append] at hc
        subst hc
        obtain rfl : c = space := by simpa using hprev
        -- A segment in front of the pipe would be a proper one.
        have hnil : segment = [] := by
          by_contra hne
          obtain ⟨first, others, rfl⟩ : ∃ c others, rest = c :: others :=
            List.exists_cons_of_ne_nil (by rintro rfl; simp at hnext)
          obtain ⟨d, reversed, hd⟩ := List.exists_cons_of_ne_nil (List.reverse_ne_nil_iff.2 hne)
          refine h segment others ⟨⟨hne, ?_, ?_, ?_⟩, rfl, ?_, ?_⟩
          · exact fun hmem => hpipe (List.mem_append_left _ hmem)
          · cases segment <;> simp_all
          · rw [← List.head?_reverse, hd]
            simpa [hd] using hprev'
          · simpa using hnext
          · simpa [List.head?_eq_getElem?] using hnext'
        subst hnil
        simp [between]
    rw [hbetween]
  · rfl

/-- At the end of the text, the current segment is the last one. -/
lemma scan_nil_eq_ok_iff (before : Text) {current : Text} (found segments : List Text)
    (hpipe : pipe ∉ current) (hhead : current.head? ≠ some space)
    (hlast : current.getLast? ≠ some space) :
    scan (before ++ current).toArray (before ++ current).length before.length found [] =
        .ok segments ↔
      ∃ others, others ≠ [] ∧ (∀ segment ∈ others, IsProper segment) ∧
        current = joined others ∧ segments = found.reverse ++ others := by
  have hbetween := between_length before current []
  simp only [List.append_nil] at hbetween
  rw [scan, List.size_toArray, hbetween]
  by_cases hcurrent : current = []
  · subst hcurrent
    simp only [if_true, bind, Except.bind, reduceCtorEq, false_iff]
    rintro ⟨others, hne, hs, hjoined, -⟩
    exact joined_ne_nil hne hs hjoined.symm
  · have hproper : IsProper current := ⟨hcurrent, hpipe, hhead, hlast⟩
    simp only [if_neg hcurrent, bind, Except.bind, pure, Except.pure, Except.ok.injEq]
    constructor
    · rintro rfl
      exact ⟨[current], by simp, by simpa using hproper, by simp, by simp⟩
    · rintro ⟨others, hne, hs, hjoined, rfl⟩
      match others with
      | [segment] => simp [hjoined]
      | segment :: next :: others =>
        -- A second segment would have put a pipe into the current one.
        rw [joined_cons_cons] at hjoined
        exact absurd (hjoined ▸ by simp) hpipe

/-- What the scan finds from the middle of a segment on: the segments of which the rest of the text,
with the beginning of the current segment, is the joined form. -/
lemma scan_eq_ok_iff (before current rest : Text) (found segments : List Text)
    (hpipe : pipe ∉ current) (hhead : (current ++ rest).head? ≠ some space)
    (hlast : (current ++ rest).getLast? ≠ some space) :
    scan (before ++ current ++ rest).toArray (before ++ current).length before.length found rest =
        .ok segments ↔
      ∃ others, others ≠ [] ∧ (∀ segment ∈ others, IsProper segment) ∧
        current ++ rest = joined others ∧ segments = found.reverse ++ others := by
  -- The recursion is on the text that is left; a delimiter leaves two code points less than the pipe.
  match rest with
  | [] =>
    simp only [List.append_nil] at hhead hlast ⊢
    exact scan_nil_eq_ok_iff before found segments hpipe hhead hlast
  | c :: rest =>
    by_cases hc : c = pipe
    · -- A pipe ends the current segment, or else the text is the joined form of nothing.
      subst hc
      have hhead' : current.head? ≠ some space := by
        cases current <;> simp_all
      by_cases h : ∃ segment others, IsDelimited current rest segment others
      · obtain ⟨segment, others, h⟩ := h
        rw [scan_pipe found h]
        obtain ⟨hproper, rfl, rfl, hothers⟩ := h
        have hlast' : others.getLast? ≠ some space := by
          cases others <;> simp_all
        have ih := scan_eq_ok_iff (before ++ (segment ++ [space]) ++ [pipe, space]) [] others
          (segment :: found) segments (by simp) (by simpa using hothers) (by simpa using hlast')
        simp only [List.append_nil, List.nil_append] at ih
        rw [ih]
        constructor
        · rintro ⟨tail, hne, hs, rfl, rfl⟩
          obtain ⟨next, tail, rfl⟩ := List.exists_cons_of_ne_nil hne
          refine ⟨segment :: next :: tail, by simp, ?_, by simp [joined_cons_cons], by simp⟩
          exact List.forall_mem_cons.2 ⟨hproper, hs⟩
        · rintro ⟨tail, hne, hs, hjoined, rfl⟩
          obtain ⟨first, next, tail, rfl, hfirst, hrest⟩ :=
            eq_of_append_pipe_eq_joined hpipe hs hjoined
          obtain rfl := List.append_cancel_right hfirst
          exact ⟨next :: tail, by simp, fun s hmem => hs s (by simp [hmem]),
            by simpa using hrest, by simp⟩
      · rw [scan_pipe_eq_error found hpipe hhead' (fun segment others hd => h ⟨_, _, hd⟩)]
        simp only [reduceCtorEq, false_iff]
        rintro ⟨others, hne, hs, hjoined, -⟩
        obtain ⟨segment, next, tail, rfl, hcurrent, hrest⟩ :=
          eq_of_append_pipe_eq_joined hpipe hs hjoined
        refine h ⟨segment, joined (next :: tail), hs _ (by simp), hcurrent, hrest, ?_⟩
        exact head?_joined_ne (by simp) fun s hmem => hs s (by simp [hmem])
    · -- Any other code point becomes a part of the current segment.
      rw [scan, if_neg hc]
      have ih := scan_eq_ok_iff before (current ++ [c]) rest found segments
        (by simp [hpipe, Ne.symm hc]) (by simpa using hhead) (by simpa using hlast)
      simpa [Nat.add_assoc] using ih
termination_by rest.length

/-- **The split finds exactly the proper segments of which a statement is the joined form.** -/
lemma split_eq_ok_iff {statement : Text} {segments : List Text} :
    split statement = .ok segments ↔
      segments ≠ [] ∧ (∀ segment ∈ segments, IsProper segment) ∧ statement = joined segments := by
  unfold split
  split
  · simp only [reduceCtorEq, false_iff]
    rintro ⟨hne, hs, hjoined⟩
    exact joined_ne_nil hne hs hjoined.symm
  · next first rest =>
    split
    · next h =>
      simp only [reduceCtorEq, false_iff]
      rintro ⟨hne, hs, hjoined⟩
      rcases h with h | h
      · exact head?_joined_ne hne hs (by simp [← hjoined, h])
      · exact getLast?_joined_ne hne hs (hjoined ▸ h)
    · next h =>
      rw [not_or] at h
      simpa using scan_eq_ok_iff [] [] (first :: rest) [] segments (by simp) (by simpa using h.1)
        (by simpa using h.2)

/-- A statement that is not the joined form of proper segments is refused for what is wrong with its
spacing. -/
lemma split_eq_error_iff {statement : Text} {fault : Fault} :
    split statement = .error fault ↔
      (statement = [] ∧ fault = .emptyInput) ∨
      (statement ≠ [] ∧ (statement.head? = some space ∨ statement.getLast? = some space) ∧
        fault = .boundarySpacing) ∨
      (statement ≠ [] ∧ statement.head? ≠ some space ∧ statement.getLast? ≠ some space ∧
        (∀ segments, segments ≠ [] → (∀ segment ∈ segments, IsProper segment) →
          statement ≠ joined segments) ∧ fault = .pipeSpacing) := by
  cases statement with
  | nil =>
    constructor
    · intro h
      exact .inl ⟨rfl, (Except.error.inj h).symm⟩
    · rintro (⟨-, rfl⟩ | ⟨h, -⟩ | ⟨h, -⟩)
      · rfl
      · exact absurd rfl h
      · exact absurd rfl h
  | cons first rest =>
    by_cases h : first = space ∨ (first :: rest).getLast? = some space
    · have hsplit : split (first :: rest) = .error .boundarySpacing := by simp [split, h]
      have hends : (first :: rest).head? = some space ∨ (first :: rest).getLast? = some space := by
        simpa using h
      constructor
      · intro herror
        exact .inr (.inl ⟨by simp, hends, (Except.error.inj (hsplit.symm.trans herror)).symm⟩)
      · rintro (⟨h, -⟩ | ⟨-, -, rfl⟩ | ⟨-, hhead, hlast, -⟩)
        · simp at h
        · exact hsplit
        · exact absurd hends (not_or.2 ⟨hhead, hlast⟩)
    · have hsplit : split (first :: rest) =
          scan (first :: rest).toArray 0 0 [] (first :: rest) := by simp [split, h]
      have hends : (first :: rest).head? ≠ some space ∧ (first :: rest).getLast? ≠ some space := by
        simpa [not_or] using h
      constructor
      · intro herror
        refine .inr (.inr ⟨by simp, hends.1, hends.2, fun segments hne hs hjoined => ?_, ?_⟩)
        · rw [split_eq_ok_iff.2 ⟨hne, hs, hjoined⟩] at herror
          simp at herror
        · exact scan_eq_error (hsplit.symm.trans herror)
      · rintro (⟨h, -⟩ | ⟨-, h | h, -⟩ | ⟨-, -, -, hnot, rfl⟩)
        · simp at h
        · exact absurd h hends.1
        · exact absurd h hends.2
        · cases hresult : split (first :: rest) with
          | ok segments =>
            obtain ⟨hne, hs, hjoined⟩ := split_eq_ok_iff.1 hresult
            exact absurd hjoined (hnot segments hne hs)
          | error fault => rw [scan_eq_error (hsplit.symm.trans hresult)]

/-! ## Splitting as the inverse of joining -/

/-- What splitting a statement comes to. -/
inductive Splits (statement : Text) : Except Fault (List Text) → Prop
  /-- The statement is the joined form of proper segments. -/
  | segments {segments : List Text} (hne : segments ≠ [])
      (hproper : ∀ segment ∈ segments, IsProper segment) (hjoined : statement = joined segments) :
      Splits statement (.ok segments)
  | empty (h : statement = []) : Splits statement (.error .emptyInput)
  /-- There is a space at one end, whatever else is wrong. -/
  | boundary (hne : statement ≠ [])
      (hends : statement.head? = some space ∨ statement.getLast? = some space) :
      Splits statement (.error .boundarySpacing)
  /-- There is none, but the statement is no joined form. -/
  | spacing (hne : statement ≠ []) (hhead : statement.head? ≠ some space)
      (hlast : statement.getLast? ≠ some space)
      (hnot : ∀ segments, segments ≠ [] → (∀ segment ∈ segments, IsProper segment) →
        statement ≠ joined segments) :
      Splits statement (.error .pipeSpacing)

/-- **Splitting is the inverse of joining**: it finds the list of proper segments of which a statement
is the joined form. A statement that is the joined form of no such list is refused for its pipes, unless
it is empty or has a space at one of its ends. -/
theorem split_eq_iff_splits {statement : Text} {found : Except Fault (List Text)} :
    split statement = found ↔ Splits statement found := by
  constructor
  · intro h
    cases found with
    | ok segments =>
      obtain ⟨hne, hproper, hjoined⟩ := split_eq_ok_iff.1 h
      exact .segments hne hproper hjoined
    | error fault =>
      rcases split_eq_error_iff.1 h with
        ⟨hnil, rfl⟩ | ⟨hne, hends, rfl⟩ | ⟨hne, hhead, hlast, hnot, rfl⟩
      · exact .empty hnil
      · exact .boundary hne hends
      · exact .spacing hne hhead hlast hnot
  · rintro (⟨hne, hproper, hjoined⟩ | hnil | ⟨hne, hends⟩ | ⟨hne, hhead, hlast, hnot⟩)
    · exact split_eq_ok_iff.2 ⟨hne, hproper, hjoined⟩
    · exact split_eq_error_iff.2 (.inl ⟨hnil, rfl⟩)
    · exact split_eq_error_iff.2 (.inr (.inl ⟨hne, hends, rfl⟩))
    · exact split_eq_error_iff.2 (.inr (.inr ⟨hne, hhead, hlast, hnot, rfl⟩))

end Segment

end Courier
