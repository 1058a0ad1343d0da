import Courier.Exchange.Execution
import Courier.Proofs.Exchange.Redirect

/-!
# What comes of a request

A request is checked, sent, and answered by the remote server. This file lists the ways in which that
breaks off, and says what is reported in all other cases: the status and the data of a response, or
an error with a message and a status of zero.
-/

namespace Courier

namespace Content

/-- That the names and the values of headers are ASCII. -/
def AreAscii (headers : List (Text × Text)) : Prop :=
  ∀ field ∈ headers, (∀ c ∈ field.1, c.isAscii = true) ∧ ∀ c ∈ field.2, c.isAscii = true

lemma checkAscii_eq_ok_iff {t : Text} : checkAscii t = .ok () ↔ ∀ c ∈ t, c.isAscii = true := by
  unfold checkAscii asciiProblem?
  cases hfind : t.findIdx? (!CodePoint.isAscii ·) with
  | none =>
    rw [List.findIdx?_eq_none_iff] at hfind
    simpa using hfind
  | some i =>
    constructor
    · intro h
      cases h
    · intro h
      have hnone : t.findIdx? (!CodePoint.isAscii ·) = none := by
        rw [List.findIdx?_eq_none_iff]
        simpa using h
      rw [hnone] at hfind
      cases hfind

lemma checkHeaders_eq_ok_iff {headers : List (Text × Text)} :
    checkHeaders headers = .ok () ↔ AreAscii headers := by
  induction headers with
  | nil => exact ⟨fun _ _ h => absurd h List.not_mem_nil, fun _ => rfl⟩
  | cons field headers ih =>
    have hcons : checkHeaders (field :: headers) =
        ((checkAscii field.1 >>= fun _ => checkAscii field.2) >>= fun _ => checkHeaders headers) :=
      rfl
    have hforall : AreAscii (field :: headers) ↔ ((∀ c ∈ field.1, c.isAscii = true) ∧
        ∀ c ∈ field.2, c.isAscii = true) ∧ AreAscii headers := List.forall_mem_cons
    rw [hcons, hforall, ← ih, ← checkAscii_eq_ok_iff, ← checkAscii_eq_ok_iff]
    cases checkAscii field.1 <;> cases checkAscii field.2 <;> simp [bind, Except.bind]

end Content

namespace Redirect

end Redirect

namespace Response

/-- Decoding changes the body only. -/
lemma status_decoded {r decoded : Response} (h : r.decoded = .ok decoded) :
    decoded.status = r.status := by
  unfold Response.decoded at h
  split at h
  · cases h
    rfl
  · cases h

end Response

namespace Client

/-! ## Requests that break off -/

/-- The ways in which a request breaks off when the remote server has a given reply to it. -/
inductive Breaks (d : Descriptor) (reply : Reply) : Crash → Prop
  /-- A body to be sent holds a number that is not finite. -/
  | body {u : Url} (hu : url d.fullUrl = .ok u) (hheaders : Content.AreAscii (headers d))
      (hmethod : d.method = .post) (h : (Json.object d.body).isFinite = false) :
      Breaks d reply .bodyNotFinite
  /-- The host is to be put into a header, and its readable form cannot be told. -/
  | host {u : Url} {fault : LabelFault} (hu : url d.fullUrl = .ok u)
      (hheaders : Content.AreAscii (headers d))
      (hbody : d.method = .post → (Json.object d.body).isFinite = true) (hhost : u.host ≠ [])
      (hheader : Content.header? (headers d) "host" = none) (h : u.readableHost = .error fault) :
      Breaks d reply (.host fault)
  /-- The server breaks off. -/
  | reply {u : Url} {crash : Crash} (hu : check d = .ok u) (h : reply = .crash crash) :
      Breaks d reply crash
  /-- The response leads to a location that cannot be prepared. -/
  | redirect {u : Url} {r decoded : Response} {location : Text} {crash : Crash}
      (hu : check d = .ok u) (hreply : reply = .response r)
      (hheaders : Content.AreAscii r.headers) (hdecoded : r.decoded = .ok decoded)
      (hstatus : Redirect.statuses.contains decoded.status = true)
      (hlocation : Content.header? decoded.headers "location" = some location)
      (h : Redirect.Breaks u location crash) : Breaks d reply crash
  /-- The response is a text in a character set that cannot be told. -/
  | charset {u : Url} {r decoded : Response} {fault : MediaType.CharsetFault}
      (hu : check d = .ok u) (hreply : reply = .response r)
      (hheaders : Content.AreAscii r.headers) (hdecoded : r.decoded = .ok decoded)
      (hredirect : Redirect.check u decoded = .ok ()) (hbody : decoded.body ≠ [])
      (hjson : Json.ofBytes? decoded.body = none) (h : decoded.charset = .error fault) :
      Breaks d reply (.charset fault)

lemma check_eq (d : Descriptor) : check d = Redirect.orFailure (url d.fullUrl) >>= fun u =>
    Content.checkHeaders (headers d) >>= fun _ =>
      if d.method = .post ∧ (Json.object d.body).isFinite = false then .error (.crash .bodyNotFinite)
      else checkHost (headers d) u >>= fun _ => checkProtocol u >>= fun _ => .ok u := by
  unfold check
  congr 1

lemma read_eq (u : Url) (r : Response) : read u r = Content.checkHeaders r.headers >>= fun _ =>
    r.decoded >>= fun decoded => Redirect.check u decoded >>= fun _ =>
      match decoded.data with
      | .ok data => .ok (decoded.status, data)
      | .error crash => .error (.crash crash) := rfl

/-- What comes of a request when the remote server has a given reply to it. -/
def outcome (d : Descriptor) (reply : Reply) : Except Stop (Int × Json) :=
  check d >>= fun u => answer u reply

lemma send_fst (w : World) (d : Descriptor) : (send w d).1 = outcome d w.reply.1 := by
  unfold send outcome
  cases check d <;> rfl

/-- What is reported when a request does not break off: the status of a response with its data, or,
for a request that failed, an error with a message that is not empty, and a status of zero. -/
inductive Reports (d : Descriptor) (reply : Reply) : Int → Json → Prop
  | response {u : Url} {r decoded : Response} {data : Json} (hu : check d = .ok u)
      (hreply : reply = .response r) (hheaders : Content.AreAscii r.headers)
      (hdecoded : r.decoded = .ok decoded) (hredirect : Redirect.check u decoded = .ok ())
      (hdata : decoded.data = .ok data) : Reports d reply r.status data
  | failure {failure : Failure} {message : Text}
      (h : outcome d reply = .error (.failure failure message)) :
      Reports d reply 0 (Execution.failureData failure message)

lemma read_eq_ok_iff {u : Url} {r : Response} {status : Int} {data : Json} :
    read u r = .ok (status, data) ↔ Content.AreAscii r.headers ∧ ∃ decoded,
      r.decoded = .ok decoded ∧ Redirect.check u decoded = .ok () ∧ decoded.data = .ok data ∧
        status = r.status := by
  rw [read_eq, bind_eq_ok_iff, exists_unit_iff, Content.checkHeaders_eq_ok_iff, bind_eq_ok_iff]
  refine and_congr_right fun _ => exists_congr fun decoded => and_congr_right fun hdecoded => ?_
  rw [bind_eq_ok_iff, exists_unit_iff, ← Response.status_decoded hdecoded]
  refine and_congr_right fun _ => ?_
  cases decoded.data with
  | error crash => simp
  | ok v =>
    simp only [Except.ok.injEq, Prod.mk.injEq]
    exact ⟨fun h => ⟨h.2, h.1.symm⟩, fun h => ⟨h.2.symm, h.1⟩⟩

/-- What is reported of an outcome: a failure is folded into a status of zero and its data. -/
def report : Except Stop (Int × Json) → Except Crash (Int × Json)
  | .ok pair => .ok pair
  | .error (.failure failure message) => .ok (0, Execution.failureData failure message)
  | .error (.crash crash) => .error crash

lemma report_eq_ok_iff {result : Except Stop (Int × Json)} {status : Int} {data : Json} :
    report result = .ok (status, data) ↔ result = .ok (status, data) ∨
      ∃ failure message, result = .error (.failure failure message) ∧ status = 0 ∧
        data = Execution.failureData failure message := by
  rcases result with (⟨failure, message⟩ | crash) | pair
  · simp only [report, Except.ok.injEq, Prod.mk.injEq, reduceCtorEq, Except.error.injEq,
      Stop.failure.injEq, false_or]
    constructor
    · rintro ⟨rfl, rfl⟩
      exact ⟨failure, message, ⟨rfl, rfl⟩, rfl, rfl⟩
    · rintro ⟨_, _, ⟨rfl, rfl⟩, rfl, rfl⟩
      exact ⟨rfl, rfl⟩
  · simp [report]
  · simp [report]

/-- A request is reported as the response it got, or as a failure. -/
theorem report_outcome_eq_ok_iff {d : Descriptor} {reply : Reply} {status : Int} {data : Json} :
    report (outcome d reply) = .ok (status, data) ↔ Reports d reply status data := by
  rw [report_eq_ok_iff]
  constructor
  · rintro (h | ⟨failure, message, h, rfl, rfl⟩)
    · rw [outcome, bind_eq_ok_iff] at h
      obtain ⟨u, hu, h⟩ := h
      cases reply with
      | crash crash => cases h
      | failure failure message => cases h
      | response r =>
        obtain ⟨hheaders, decoded, hdecoded, hredirect, hdata, rfl⟩ := read_eq_ok_iff.mp h
        exact .response hu rfl hheaders hdecoded hredirect hdata
    · exact .failure h
  · intro h
    cases h with
    | response hu hreply hheaders hdecoded hredirect hdata =>
      left
      rw [outcome, bind_eq_ok_iff, hreply]
      exact ⟨_, hu, read_eq_ok_iff.mpr ⟨hheaders, _, hdecoded, hredirect, hdata, rfl⟩⟩
    | failure h => exact .inr ⟨_, _, h, rfl, rfl⟩

end Client

end Courier
