import Courier.Proofs.Http.Head

/-!
# Reading a request

What reading a request from a byte sequence comes to is decided by the place of the first terminator,
by what the head before it says, and by the number of the bytes behind it: in seven cases, which
exclude each other and leave nothing out. None of them but the two in which bytes are missing looks
behind the request, so that no bytes that follow can change what was read.
-/

namespace Courier

namespace Http

/-- What reading a request comes to. -/
inductive Reads (maxBody : Nat) (raw : List UInt8) : Except Refusal Request → Prop
  /-- The first terminator starts too late. -/
  | endsTooLate {head rest : List UInt8} (hcuts : Head.Cuts raw head rest)
      (hlong : maxHead < head.length) : Reads maxBody raw (.error .headTooLong)
  /-- There is no terminator, and none could start in time any more. -/
  | neverEnds (hnone : ¬Head.terminator <:+: raw) (hlong : maxHead + 4 ≤ raw.length) :
      Reads maxBody raw (.error .headTooLong)
  /-- There is no terminator, but one could still start in time. -/
  | headUnfinished (hnone : ¬Head.terminator <:+: raw) (hshort : raw.length < maxHead + 4) :
      Reads maxBody raw (.error .incomplete)
  | malformed {head rest : List UInt8} (hcuts : Head.Cuts raw head rest)
      (hlength : head.length ≤ maxHead) (hmalformed : Head.Malformed head) :
      Reads maxBody raw (.error .malformed)
  /-- The head declares a body that is too long. -/
  | bodyTooLong {head rest : List UInt8} {method target version : Text}
      {fields : List (Text × Text)} {n : Nat} (hcuts : Head.Cuts raw head rest)
      (hlength : head.length ≤ maxHead) (hhead : Head.Says head method target version fields)
      (hdeclares : Head.Declares fields n) (hlong : maxBody < n) :
      Reads maxBody raw (.error .bodyTooLong)
  /-- Fewer bytes than declared follow the head. -/
  | bodyUnfinished {head rest : List UInt8} {method target version : Text}
      {fields : List (Text × Text)} {n : Nat} (hcuts : Head.Cuts raw head rest)
      (hlength : head.length ≤ maxHead) (hhead : Head.Says head method target version fields)
      (hdeclares : Head.Declares fields n) (hn : n ≤ maxBody) (hshort : rest.length < n) :
      Reads maxBody raw (.error .incomplete)
  /-- A head, the body that it declares, and bytes that nobody looks at. -/
  | request {head body rest : List UInt8} {method target version : Text}
      {fields : List (Text × Text)} (hcuts : Head.Cuts raw head (body ++ rest))
      (hlength : head.length ≤ maxHead) (hhead : Head.Says head method target version fields)
      (hdeclares : Head.Declares fields body.length) (hbody : body.length ≤ maxBody) :
      Reads maxBody raw (.ok ⟨⟨method, target, version, Fields.ofEntries fields⟩, body⟩)

section

variable {maxBody : Nat} {raw : List UInt8} {read : Except Refusal Request}

/-! ## Each case is what the reader does -/

/-- The reader goes by the length that a head declares, once it has the head. -/
lemma readRequest_of_declares {head rest : List UInt8} {method target version : Text}
    {fields : List (Text × Text)} {n : Nat} (hcuts : Head.Cuts raw head rest)
    (hlength : head.length ≤ maxHead) (hhead : Head.Says head method target version fields)
    (hdeclares : Head.Declares fields n) :
    readRequest maxBody raw =
      if maxBody < n then .error .bodyTooLong
      else if (rest.take n).length < n then .error .incomplete
      else .ok ⟨⟨method, target, version, Fields.ofEntries fields⟩, rest.take n⟩ := by
  have hread : Head.read head = .ok ⟨method, target, version, Fields.ofEntries fields⟩ :=
    Head.read_eq_ok_iff.mpr ⟨fields, hhead, rfl⟩
  have hdeclared : declaredLength ⟨method, target, version, Fields.ofEntries fields⟩ = .ok n :=
    (Head.declaredLength_eq_ok_iff rfl).mpr hdeclares
  rw [readRequest, Head.cut?_eq_some_iff.mpr hcuts]
  dsimp only
  rw [if_neg (Nat.not_lt.mpr hlength), hread]
  dsimp only
  rw [hdeclared]

lemma readRequest_of_malformed {head rest : List UInt8} (hcuts : Head.Cuts raw head rest)
    (hlength : head.length ≤ maxHead) (hmalformed : Head.Malformed head) :
    readRequest maxBody raw = .error .malformed := by
  rw [readRequest, Head.cut?_eq_some_iff.mpr hcuts]
  dsimp only
  rw [if_neg (Nat.not_lt.mpr hlength)]
  cases hread : Head.read head with
  | error fault => rfl
  | ok read =>
    obtain ⟨fields, hhead, hheaders⟩ := Head.read_eq_ok_iff.mp hread
    dsimp only
    cases hdeclared : declaredLength read with
    | error refusal => rw [Head.declaredLength_eq_malformed hdeclared]
    | ok n =>
      have hdeclares := (Head.declaredLength_eq_ok_iff hheaders).mp hdeclared
      exact absurd hdeclares (hmalformed.not_declares hhead n)

lemma Reads.readRequest_eq (h : Reads maxBody raw read) : readRequest maxBody raw = read := by
  cases h with
  | endsTooLate hcuts hlong =>
    rw [readRequest, Head.cut?_eq_some_iff.mpr hcuts]
    dsimp only
    rw [if_pos hlong]
  | neverEnds hnone hlong =>
    rw [readRequest, Head.cut?_eq_none_iff.mpr hnone]
    dsimp only
    rw [if_pos (by omega)]
  | headUnfinished hnone hshort =>
    rw [readRequest, Head.cut?_eq_none_iff.mpr hnone]
    dsimp only
    rw [if_neg (by omega)]
  | malformed hcuts hlength hmalformed => exact readRequest_of_malformed hcuts hlength hmalformed
  | bodyTooLong hcuts hlength hhead hdeclares hlong =>
    rw [readRequest_of_declares hcuts hlength hhead hdeclares, if_pos hlong]
  | bodyUnfinished hcuts hlength hhead hdeclares hn hshort =>
    rw [readRequest_of_declares hcuts hlength hhead hdeclares, if_neg (Nat.not_lt.mpr hn),
      if_pos (Nat.lt_of_le_of_lt (List.length_take_le' _ _) hshort)]
  | request hcuts hlength hhead hdeclares hbody =>
    rw [readRequest_of_declares hcuts hlength hhead hdeclares, if_neg (Nat.not_lt.mpr hbody),
      List.take_left, if_neg (Nat.lt_irrefl _)]

/-! ## There is always a case -/

lemma exists_reads (maxBody : Nat) (raw : List UInt8) : ∃ read, Reads maxBody raw read := by
  by_cases hends : Head.terminator <:+: raw
  · obtain ⟨head, rest, hcuts⟩ := Head.exists_cuts hends
    rcases Nat.lt_or_ge maxHead head.length with hlong | hlength
    · exact ⟨_, .endsTooLate hcuts hlong⟩
    · rcases Head.malformed_or_declares head with
        hmalformed | ⟨method, target, version, fields, n, hhead, hdeclares⟩
      · exact ⟨_, .malformed hcuts hlength hmalformed⟩
      · rcases Nat.lt_or_ge maxBody n with hlong | hn
        · exact ⟨_, .bodyTooLong hcuts hlength hhead hdeclares hlong⟩
        · rcases Nat.lt_or_ge rest.length n with hshort | hrest
          · exact ⟨_, .bodyUnfinished hcuts hlength hhead hdeclares hn hshort⟩
          · -- The body is as long as declared, whatever is left behind it.
            have htake : (rest.take n).length = n := List.length_take_of_le hrest
            rw [← List.take_append_drop n rest] at hcuts
            rw [← htake] at hdeclares hn
            exact ⟨_, .request hcuts hlength hhead hdeclares hn⟩
  · rcases Nat.lt_or_ge raw.length (maxHead + 4) with hshort | hlong
    · exact ⟨_, .headUnfinished hends hshort⟩
    · exact ⟨_, .neverEnds hends hlong⟩

/-- What the reader makes of a byte sequence is what reading it comes to. -/
theorem readRequest_eq_iff : readRequest maxBody raw = read ↔ Reads maxBody raw read := by
  constructor
  · rintro rfl
    obtain ⟨read, hread⟩ := exists_reads maxBody raw
    rw [hread.readRequest_eq]
    exact hread
  · exact Reads.readRequest_eq

/-! ## What follows a request -/

/-- Bytes that follow matter only to a request that is not complete. -/
lemma Reads.append (h : Reads maxBody raw read) (hcomplete : read ≠ .error .incomplete)
    (extra : List UInt8) : Reads maxBody (raw ++ extra) read := by
  cases h with
  | endsTooLate hcuts hlong => exact .endsTooLate (hcuts.append extra) hlong
  | neverEnds hnone hlong =>
    by_cases hends : Head.terminator <:+: raw ++ extra
    · -- The terminator would have to start in time for the bytes before to hold all of it.
      obtain ⟨head, rest, hcuts⟩ := Head.exists_cuts hends
      refine .endsTooLate hcuts ?_
      by_contra hlength
      exact hnone (Head.infix_of_cuts_append hcuts (by omega))
    · refine .neverEnds hends ?_
      rw [List.length_append]
      omega
  | headUnfinished _ _ => exact absurd rfl hcomplete
  | malformed hcuts hlength hmalformed => exact .malformed (hcuts.append extra) hlength hmalformed
  | bodyTooLong hcuts hlength hhead hdeclares hlong =>
    exact .bodyTooLong (hcuts.append extra) hlength hhead hdeclares hlong
  | bodyUnfinished _ _ _ _ _ _ => exact absurd rfl hcomplete
  | request hcuts hlength hhead hdeclares hbody =>
    have hcuts := hcuts.append extra
    rw [List.append_assoc] at hcuts
    exact .request hcuts hlength hhead hdeclares hbody

/-- The reader never looks behind a request. -/
theorem readRequest_append (h : readRequest maxBody raw ≠ .error .incomplete)
    (extra : List UInt8) : readRequest maxBody (raw ++ extra) = readRequest maxBody raw :=
  ((readRequest_eq_iff.mp rfl).append h extra).readRequest_eq

end

end Http

end Courier
