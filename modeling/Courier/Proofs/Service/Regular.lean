import Courier.Proofs.Service.Handler

/-!
# Regular documents

Whatever is in the document of a request with its outcome, a text can be written for it from which it is
read again: the sections and the data of a response were read themselves, and the times are too short to
make a difference, as is the status, if it is one of HTTP.
-/

namespace Courier

/-! ## Times -/

namespace Binary64

/-- The bound of all times in milliseconds. -/
def timeBound : Nat := Nat.pow 2 1026

lemma natAbs_truncate_lt (x : Binary64) : x.truncate.natAbs < timeBound := by
  have hpos : 0 < timeBound := by decide +kernel
  cases x with
  | infinite negative => exact hpos
  | nan => exact hpos
  | finite negative m =>
    have hunits : units m < one * timeBound := by
      have hlt : units m < Nat.pow 2 2100 :=
        Nat.lt_of_le_of_lt (Nat.le_add_right _ _) (Decimal.units_lt m.isLt)
      have hpow : Nat.pow 2 2100 = one * timeBound := by decide +kernel
      exact hpow ▸ hlt
    have hquotient : units m / one < timeBound := Nat.div_lt_of_lt_mul hunits
    rw [truncate]
    split
    · rwa [Int.natAbs_neg, Int.natAbs_natCast]
    · rwa [Int.natAbs_natCast]

end Binary64

lemma World.natAbs_milliseconds_lt {seconds : Binary64} {n : Int}
    (h : milliseconds seconds = .ok n) : n.natAbs < Binary64.timeBound := by
  unfold milliseconds at h
  split at h
  · cases h
  · cases h
  · cases h
    exact Binary64.natAbs_truncate_lt _

/-! ## Outcomes -/

/-- That the statuses of the responses that a world has in store are short enough to be printed and
read. Those of HTTP, which have three digits, are. -/
def World.HasStatuses (w : World) : Prop :=
  ∀ r, Reply.response r ∈ w.replies → r.status.natAbs < 10 ^ Json.maxDigits

lemma World.reply_eq_or_mem (w : World) : w.reply.1 = .response {} ∨ w.reply.1 ∈ w.replies := by
  have hreply : w.reply.1 = (next (.response {}) w.replies).1 := rfl
  rw [hreply]
  match w.replies with
  | [] => exact .inl rfl
  | [_] => exact .inr List.mem_cons_self
  | _ :: _ :: _ => exact .inr List.mem_cons_self

lemma Response.isRegular_data {r : Response} {data : Json} (h : r.data = .ok data) :
    data.isRegular = true := by
  unfold Response.data at h
  split at h
  · cases h
    rfl
  · split at h
    · next v hv =>
      cases h
      exact Json.isRegular_of_ofBytes? hv
    · split at h
      · cases h
        rfl
      · cases h

lemma Client.Reports.isRegular {d : Descriptor} {reply : Reply} {status : Int} {data : Json}
    (h : Reports d reply status data) : data.isRegular = true := by
  cases h with
  | response _ _ _ _ _ hdata => exact Response.isRegular_data hdata
  | failure _ =>
    refine Json.isRegular_object.mpr ⟨by simp [Text.ofString_inj], ?_⟩
    simp [Json.isRegular]

lemma Client.Reports.isRegular_status {w : World} (hstatuses : w.HasStatuses) {d : Descriptor}
    {status : Int} {data : Json} (h : Reports d w.reply.1 status data) :
    (Json.int status).isRegular = true := by
  cases h with
  | @response u r decoded data hu hreply hheaders hdecoded hredirect hdata =>
    rcases w.reply_eq_or_mem with husual | hmem
    · rw [hreply] at husual
      cases husual
      decide
    · rw [hreply] at hmem
      exact Json.isRegular_int.mpr (hstatuses r hmem)
  | failure _ => decide

namespace Execution

variable {w : World} {d : Descriptor} {e : Execution}

/-- The times of an execution can be printed. -/
lemma Runs.isRegular_times (h : Runs w d e) : (Json.int e.start).isRegular = true ∧
    (Json.int e.stop).isRegular = true ∧ (Json.int e.duration).isRegular = true := by
  have hbound : Binary64.timeBound + Binary64.timeBound ≤ 10 ^ Json.maxDigits := by decide +kernel
  have hstart := World.natAbs_milliseconds_lt h.start
  have hstop := World.natAbs_milliseconds_lt h.stop
  rw [Json.isRegular_int, Json.isRegular_int, Json.isRegular_int, duration]
  generalize 10 ^ Json.maxDigits = most at hbound ⊢
  omega

end Execution

namespace Document

variable {w : World} {statement : Text} {d : Descriptor} {e : Execution}

/-- The document of a request with its outcome is regular. -/
lemma isRegular_whole (hparse : Statement.parse (some statement) = .ok d)
    (hruns : Execution.Runs w d e) (hstatus : (Json.int e.status).isRegular = true) :
    (whole d e).isRegular = true := by
  obtain ⟨hheaders, hquery, hbody⟩ :=
    Descriptor.forall_object_iff.mp (Statement.isRegular_of_parse hparse)
  obtain ⟨hstart, hstop, hduration⟩ := hruns.isRegular_times
  have hdata := hruns.reports.isRegular
  have hurl : (Json.string d.fullUrl).isRegular = true := rfl
  have hrequest : (request d).isRegular = true := by
    refine Json.isRegular_object.mpr ⟨by simp [Text.ofString_inj], ?_⟩
    simp [hquery, hbody, hheaders, hurl]
  have hresponse : (response e).isRegular = true := by
    refine Json.isRegular_object.mpr ⟨by simp [Text.ofString_inj], ?_⟩
    simp [hstart, hstop, hduration, hstatus, hdata]
  refine Json.isRegular_object.mpr ⟨by simp [Text.ofString_inj], ?_⟩
  simp [hrequest, hresponse]

end Document

end Courier
