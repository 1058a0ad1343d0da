import Courier.Http.Head
import Mathlib.Data.List.Infix
import Mathlib.Tactic.Common

/-!
# Where a head ends, and its lines

The head of a byte sequence ends where its first terminator starts, and the bytes before are cut into
lines at the ends of lines, none of which stands inside of a line. Both cuts are described here by the
bytes that they give; what follows a terminator has no part in the first.
-/

namespace Courier

namespace Http

namespace Head

/-! ## The first terminator -/

/-- That the first terminator of a byte sequence starts at an offset. -/
structure EndsAt (raw : List UInt8) (n : Nat) : Prop where
  here : terminator <+: raw.drop n
  notBefore : ∀ m < n, ¬terminator <+: raw.drop m

/-- That a byte sequence consists of some bytes, its first terminator and the rest. -/
structure Cuts (raw head rest : List UInt8) : Prop where
  eq : raw = head ++ (terminator ++ rest)
  endsAt : EndsAt raw head.length

section

variable {b : UInt8} {raw head rest : List UInt8}

lemma endsAt_zero_iff : EndsAt raw 0 ↔ terminator <+: raw := by
  constructor
  · intro h
    simpa using h.here
  · intro h
    exact ⟨by simpa using h, fun m hm => absurd hm (Nat.not_lt_zero m)⟩

lemma endsAt_cons_succ_iff {n : Nat} :
    EndsAt (b :: raw) (n + 1) ↔ ¬terminator <+: b :: raw ∧ EndsAt raw n := by
  constructor
  · intro h
    refine ⟨by simpa using h.notBefore 0 (Nat.succ_pos n), by simpa using h.here, ?_⟩
    intro m hm
    simpa using h.notBefore (m + 1) (Nat.succ_lt_succ hm)
  · rintro ⟨hcons, h⟩
    refine ⟨by simpa using h.here, ?_⟩
    intro m hm
    cases m with
    | zero => simpa using hcons
    | succ m => simpa using h.notBefore m (Nat.lt_of_succ_lt_succ hm)

lemma EndsAt.unique {m n : Nat} (hm : EndsAt raw m) (hn : EndsAt raw n) : m = n := by
  rcases Nat.lt_trichotomy m n with h | h | h
  · exact absurd hm.here (hn.notBefore m h)
  · exact h
  · exact absurd hn.here (hm.notBefore n h)

lemma terminator_infix_of_prefix_drop {n : Nat} (h : terminator <+: raw.drop n) :
    terminator <:+: raw :=
  h.isInfix.trans (List.drop_suffix n raw).isInfix

lemma add_le_length {n : Nat} (h : terminator <+: raw.drop n) : n + 4 ≤ raw.length := by
  have hle : terminator.length ≤ (raw.drop n).length := h.length_le
  have hlength : terminator.length = 4 := rfl
  rw [hlength, List.length_drop] at hle
  omega

/-- A terminator that starts four bytes before the end of a sequence, or earlier, does not need what
follows the sequence. -/
lemma terminator_prefix_append_iff {n : Nat} (hn : n + 4 ≤ raw.length) (extra : List UInt8) :
    terminator <+: (raw ++ extra).drop n ↔ terminator <+: raw.drop n := by
  rw [List.drop_append_of_le_length (by omega)]
  constructor
  · intro h
    refine List.prefix_of_prefix_length_le h (List.prefix_append _ _) ?_
    have hlength : terminator.length = 4 := rfl
    rw [hlength, List.length_drop]
    omega
  · intro h
    exact h.trans (List.prefix_append _ _)

/-- What follows the first terminator does not move it. -/
lemma EndsAt.append {n : Nat} (h : EndsAt raw n) (extra : List UInt8) :
    EndsAt (raw ++ extra) n := by
  have hn : n + 4 ≤ raw.length := add_le_length h.here
  constructor
  · exact (terminator_prefix_append_iff hn extra).mpr h.here
  · intro m hm hbefore
    exact h.notBefore m hm ((terminator_prefix_append_iff (by omega) extra).mp hbefore)

/-! ## Cutting a head off -/

lemma cutFrom?_terminator (passed rest : List UInt8) :
    cutFrom? passed (terminator ++ rest) = some (passed.reverse, rest) := by
  show cutFrom? passed (13 :: 10 :: 13 :: 10 :: rest) = _
  rw [cutFrom?]

lemma cutFrom?_cons (h : ¬terminator <+: b :: raw) (passed : List UInt8) :
    cutFrom? passed (b :: raw) = cutFrom? (b :: passed) raw := by
  rw [cutFrom?]
  rintro rest rfl rfl
  exact h ⟨rest, rfl⟩

/-- What was passed comes first. -/
lemma cutFrom?_eq (passed raw : List UInt8) :
    cutFrom? passed raw = (cut? raw).map fun parts => (passed.reverse ++ parts.1, parts.2) := by
  induction raw generalizing passed with
  | nil => rfl
  | cons b raw ih =>
    by_cases h : terminator <+: b :: raw
    · obtain ⟨rest, hrest⟩ := h
      rw [cut?, ← hrest, cutFrom?_terminator, cutFrom?_terminator]
      simp
    · rw [cut?, cutFrom?_cons h, cutFrom?_cons h, ih (b :: passed), ih [b], Option.map_map]
      simp [Function.comp_def]

lemma cut?_terminator (rest : List UInt8) : cut? (terminator ++ rest) = some ([], rest) :=
  cutFrom?_terminator [] rest

lemma cut?_cons (h : ¬terminator <+: b :: raw) :
    cut? (b :: raw) = (cut? raw).map fun parts => (b :: parts.1, parts.2) := by
  rw [cut?, cutFrom?_cons h, cutFrom?_eq]
  rfl

/-- A byte sequence is cut at its first terminator. -/
theorem cut?_eq_some_iff : cut? raw = some (head, rest) ↔ Cuts raw head rest := by
  induction raw generalizing head with
  | nil =>
    constructor
    · intro h
      cases h
    · intro h
      have hlength := congrArg List.length h.eq
      simp [terminator, lineEnd] at hlength
  | cons b raw ih =>
    by_cases h : terminator <+: b :: raw
    · obtain ⟨after, hafter⟩ := h
      rw [← hafter, cut?_terminator]
      have hzero : EndsAt (terminator ++ after) 0 := endsAt_zero_iff.mpr (List.prefix_append _ _)
      constructor
      · intro heq
        obtain ⟨rfl, rfl⟩ : [] = head ∧ after = rest := by simpa using heq
        exact ⟨rfl, hzero⟩
      · rintro ⟨heq, hend⟩
        obtain rfl : head = [] := List.length_eq_zero_iff.mp (hend.unique hzero)
        rw [List.nil_append, List.append_cancel_left_eq] at heq
        rw [heq]
    · rw [cut?_cons h]
      constructor
      · intro heq
        obtain ⟨⟨head', rest'⟩, hcut, hparts⟩ := Option.map_eq_some_iff.mp heq
        obtain ⟨rfl, rfl⟩ : b :: head' = head ∧ rest' = rest := by simpa using hparts
        obtain ⟨hraw, hend⟩ := ih.mp hcut
        exact ⟨congrArg (b :: ·) hraw, endsAt_cons_succ_iff.mpr ⟨h, hend⟩⟩
      · rintro ⟨heq, hend⟩
        cases head with
        | nil => exact absurd (endsAt_zero_iff.mp hend) h
        | cons b' head =>
          obtain ⟨rfl, hraw⟩ : b = b' ∧ raw = head ++ (terminator ++ rest) := by simpa using heq
          rw [ih.mpr ⟨hraw, (endsAt_cons_succ_iff.mp hend).2⟩]
          rfl

/-- A byte sequence without a terminator, and no other, is not cut. -/
theorem cut?_eq_none_iff : cut? raw = none ↔ ¬terminator <:+: raw := by
  induction raw with
  | nil => exact iff_of_true rfl (by decide)
  | cons b raw ih =>
    rw [List.infix_cons_iff, not_or]
    by_cases h : terminator <+: b :: raw
    · obtain ⟨after, hafter⟩ := h
      rw [← hafter, cut?_terminator]
      simp
    · rw [cut?_cons h, Option.map_eq_none_iff, ih]
      simp [h]

/-- What follows the first terminator is left alone. -/
lemma Cuts.append (h : Cuts raw head rest) (extra : List UInt8) :
    Cuts (raw ++ extra) head (rest ++ extra) :=
  ⟨by rw [h.eq, List.append_assoc, List.append_assoc], h.endsAt.append extra⟩

/-- A terminator of a longer sequence that starts early is one of the sequence itself. -/
lemma infix_of_cuts_append {extra : List UInt8} (h : Cuts (raw ++ extra) head rest)
    (hhead : head.length + 4 ≤ raw.length) : terminator <:+: raw :=
  terminator_infix_of_prefix_drop ((terminator_prefix_append_iff hhead extra).mp h.endsAt.here)

lemma exists_cuts (h : terminator <:+: raw) : ∃ head rest, Cuts raw head rest := by
  cases hcut : cut? raw with
  | none => exact absurd h (cut?_eq_none_iff.mp hcut)
  | some parts => exact ⟨parts.1, parts.2, cut?_eq_some_iff.mp hcut⟩

end

/-! ## Lines -/

/-- That a byte sequence consists of lines, with the end of a line between neighbours. -/
inductive IsLines : List UInt8 → List (List UInt8) → Prop
  | last {line : List UInt8} (h : ¬lineEnd <:+: line) : IsLines line [line]
  | cons {line rest : List UInt8} {others : List (List UInt8)} (h : ¬lineEnd <:+: line)
      (hrest : IsLines rest others) : IsLines (line ++ (lineEnd ++ rest)) (line :: others)

section

variable {b : UInt8} {raw : List UInt8} {passed : List (List UInt8)} {current : List UInt8}

lemma linesFrom_lineEnd (passed : List (List UInt8)) (current rest : List UInt8) :
    linesFrom passed current (lineEnd ++ rest) = linesFrom (current.reverse :: passed) [] rest := by
  show linesFrom passed current (13 :: 10 :: rest) = _
  rw [linesFrom]

lemma linesFrom_cons (h : ¬lineEnd <+: b :: raw) (passed : List (List UInt8))
    (current : List UInt8) :
    linesFrom passed current (b :: raw) = linesFrom passed (b :: current) raw := by
  rw [linesFrom]
  rintro rest rfl rfl
  exact h ⟨rest, rfl⟩

/-- A line is read up to its end. -/
lemma linesFrom_append {line : List UInt8} (h : ¬lineEnd <:+: line) (passed : List (List UInt8))
    (current rest : List UInt8) :
    linesFrom passed current (line ++ (lineEnd ++ rest)) =
      linesFrom ((current.reverse ++ line) :: passed) [] rest := by
  induction line generalizing current with
  | nil => rw [List.nil_append, linesFrom_lineEnd, List.append_nil]
  | cons b line ih =>
    rw [List.infix_cons_iff, not_or] at h
    have hcons : ¬lineEnd <+: b :: (line ++ (lineEnd ++ rest)) := by
      intro hstarts
      -- A line feed after the first byte would have to stand in the line itself.
      obtain ⟨rfl, htail⟩ := List.cons_prefix_cons.mp hstarts
      cases line with
      | nil =>
        obtain ⟨hbyte, -⟩ := List.cons_prefix_cons.mp htail
        exact absurd hbyte (by decide)
      | cons d line =>
        obtain ⟨rfl, -⟩ := List.cons_prefix_cons.mp htail
        exact h.1 ⟨line, rfl⟩
    rw [List.cons_append, linesFrom_cons hcons, ih h.2]
    simp

lemma linesFrom_last {line : List UInt8} (h : ¬lineEnd <:+: line) (passed : List (List UInt8))
    (current : List UInt8) :
    linesFrom passed current line = ((current.reverse ++ line) :: passed).reverse := by
  induction line generalizing current with
  | nil => rw [linesFrom, List.append_nil]
  | cons b line ih =>
    rw [List.infix_cons_iff, not_or] at h
    rw [linesFrom_cons h.1, ih h.2]
    simp

lemma IsLines.linesFrom_eq {ls : List (List UInt8)} (h : IsLines raw ls) :
    ∀ passed, linesFrom passed [] raw = passed.reverse ++ ls := by
  induction h with
  | last h =>
    intro passed
    rw [linesFrom_last h]
    simp
  | cons h _ ih =>
    intro passed
    rw [linesFrom_append h, ih]
    simp

/-- A byte goes to the first line, unless it belongs to the end of one. -/
lemma IsLines.exists_cons (hb : ¬lineEnd <+: b :: raw) {ls : List (List UInt8)}
    (h : IsLines raw ls) : ∃ ls', IsLines (b :: raw) ls' := by
  cases h with
  | last h => exact ⟨_, .last (by rw [List.infix_cons_iff, not_or]; exact ⟨hb, h⟩)⟩
  | @cons line rest others h hrest =>
    have hline : ¬lineEnd <:+: b :: line := by
      rw [List.infix_cons_iff, not_or]
      refine ⟨fun hstarts => hb (hstarts.trans ?_), h⟩
      rw [← List.cons_append]
      exact List.prefix_append _ _
    exact ⟨(b :: line) :: others, .cons hline hrest⟩

lemma exists_isLines (raw : List UInt8) : ∃ ls, IsLines raw ls := by
  -- The induction is on the length, since the end of a line is two bytes long.
  induction hn : raw.length using Nat.strongRecOn generalizing raw with
  | _ n ih =>
    cases raw with
    | nil => exact ⟨[[]], .last (by decide)⟩
    | cons b raw =>
      rw [List.length_cons] at hn
      by_cases hb : lineEnd <+: b :: raw
      · obtain ⟨rest, hrest⟩ := hb
        have hlength : rest.length + 2 = raw.length + 1 := by
          have h := congrArg List.length hrest
          rw [List.length_append, List.length_cons] at h
          exact (Nat.add_comm rest.length 2).trans h
        obtain ⟨ls, hls⟩ := ih rest.length (by omega) rest rfl
        have hempty : ¬lineEnd <:+: ([] : List UInt8) := by decide
        rw [← hrest]
        exact ⟨[] :: ls, .cons hempty hls⟩
      · obtain ⟨ls, hls⟩ := ih raw.length (by omega) raw rfl
        exact hls.exists_cons hb

/-- The lines of a byte sequence are what it consists of. -/
theorem lines_eq_iff {ls : List (List UInt8)} : lines raw = ls ↔ IsLines raw ls := by
  constructor
  · rintro rfl
    obtain ⟨ls, hls⟩ := exists_isLines raw
    rw [lines, hls.linesFrom_eq]
    exact hls
  · intro h
    rw [lines, h.linesFrom_eq]
    rfl

lemma IsLines.unique {ls ls' : List (List UInt8)} (h : IsLines raw ls) (h' : IsLines raw ls') :
    ls = ls' := by
  rw [← lines_eq_iff] at h h'
  exact h.symm.trans h'

lemma exists_isLines_cons (raw : List UInt8) : ∃ first others, IsLines raw (first :: others) := by
  obtain ⟨ls, hls⟩ := exists_isLines raw
  cases hls with
  | last h => exact ⟨_, _, .last h⟩
  | cons h hrest => exact ⟨_, _, .cons h hrest⟩

end

end Head

end Http

end Courier
