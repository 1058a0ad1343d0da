import Courier.Proofs.Exchange.Calls
import Courier.Proofs.Service.Relay

/-!
# Connections that leave no trace

The connections to a server share one world: the replies of the remote server and the readings of the
clock are used up one after another. Only the execution of a request uses any. So what becomes of a
connection depends on the executions before it and on nothing else, and the connections that start none
can be left out of a run.
-/

namespace Courier

namespace World

/-- That two worlds differ in their logs at most. -/
structure SameButLog (w w' : World) : Prop where
  replies : w'.replies = w.replies
  clock : w'.clock = w.clock
  sent : w'.sent = w.sent

section

variable {w w' : World}

lemma SameButLog.refl (w : World) : SameButLog w w := ⟨rfl, rfl, rfl⟩

lemma SameButLog.trans {w'' : World} (h : SameButLog w w') (h' : SameButLog w' w'') :
    SameButLog w w'' :=
  ⟨h'.replies.trans h.replies, h'.clock.trans h.clock, h'.sent.trans h.sent⟩

lemma SameButLog.write (h : SameButLog w w') (line : Log.Line) : SameButLog w (w'.write line) :=
  ⟨h.replies, h.clock, h.sent⟩

lemma SameButLog.forget_eq (h : SameButLog w w') : w'.forget = w.forget := by
  rw [forget, forget, h.replies, h.clock]

end

end World

namespace Http

/-- That a message has a status, and the reason for it. -/
def Message.HasStatus (message : Message) (status : Int) : Prop :=
  message.statusLine =
    Text.ofString "HTTP/1.1 " ++ Text.ofInt status ++ (CodePoint.ofChar ' ' :: reason status)

lemma Delivers.hasStatus {server : Server} {answer : Option (Answer × List (Text × Text))}
    {outcome : Outcome} {message : Message} (h : Delivers server answer outcome)
    (hresponse : outcome.response = some message) :
    ∃ a headers, answer = some (a, headers) ∧ message.HasStatus a.status := by
  cases h with
  | silent => cases hresponse
  | unsendable _ => cases hresponse
  | written _ =>
    cases hresponse
    exact ⟨_, _, rfl, rfl⟩

end Http

namespace Service

open Http

section

variable {w : World} {payload : Json} {d : Descriptor}

/-- A statement that is refused is answered with 400, or not at all. -/
lemma handle_of_parse_eq_error {rejection : Statement.Rejection}
    (hparse : Statement.parse (statement? payload) = .error rejection) :
    w.SameButLog (handle w payload).2 ∧
      ∀ answer, (handle w payload).1 = .ok answer → answer.status = 400 := by
  unfold handle
  rw [hparse]
  rcases rejection with fault | reports
  · refine ⟨(World.SameButLog.refl w).write _, ?_⟩
    rintro answer ⟨⟩
    rfl
  · refine ⟨World.SameButLog.refl w, ?_⟩
    rintro answer ⟨⟩

/-- A statement that is accepted is executed. -/
lemma handle_of_parse_eq_ok (hparse : Statement.parse (statement? payload) = .ok d) :
    (execute w d).2.SameButLog (handle w payload).2 := by
  unfold handle
  rw [hparse]
  dsimp only
  rcases execute w d with ⟨_ | e, after⟩
  · exact World.SameButLog.refl after
  · exact (World.SameButLog.refl after).write _

end

/-! ## One connection -/

/-- That a connection starts the execution of a request: reading does not fail, and what is posted is
a statement that is accepted. -/
def Starts (server : Server) (connection : List UInt8 × Faults) (d : Descriptor) : Prop :=
  connection.2.read = false ∧ ∃ statement, Posts server.maxBody connection.1 statement ∧
    Statement.parse (some statement) = .ok d

/-- The statuses of the responses to connections that start no execution. -/
def refusals : List Int := [400, 404, 405, 413, 431, 500]

section

variable {server : Server} {w w' : World} {raw : List UInt8} {faults : Faults} {d : Descriptor}

/-- The world after a connection is the one that was decided on. -/
lemma serve_sameButLog (hread : faults.read = false)
    {answer : Option (Answer × List (Text × Text))} (hdecides : Decides server w raw answer w') :
    w'.SameButLog (server.serve w raw faults).2 ∧
      ∀ message, (server.serve w raw faults).1.response = some message →
        ∃ a headers, answer = some (a, headers) ∧ message.HasStatus a.status := by
  obtain ⟨outcome, hdelivers⟩ := exists_delivers server answer
  rw [serve_of_decides hread hdecides hdelivers]
  refine ⟨?_, fun message => hdelivers.hasStatus⟩
  dsimp only
  split
  · exact (World.SameButLog.refl w').write _
  · exact World.SameButLog.refl w'

/-- A connection that starts an execution does to the world what the execution does, and it is answered
500 if there is no outcome. -/
lemma serve_of_starts (hrouter : server.router = router) (h : Starts server (raw, faults) d) :
    (execute w d).2.SameButLog (server.serve w raw faults).2 ∧
      ∀ crash, (execute w d).1 = .error crash →
        ∀ message, (server.serve w raw faults).1.response = some message →
          message.HasStatus 500 := by
  obtain ⟨hread, statement, ⟨hreads, hmethod, hpath, hstatement⟩, hparse⟩ := h
  rw [← hstatement] at hparse
  have hresolves := resolves_router_iff.mpr ⟨hmethod, hpath, rfl⟩
  rw [← hrouter] at hresolves
  have hanswer := handle_fst (w := w) hparse
  have hworld := handle_of_parse_eq_ok (w := w) hparse
  rcases hhandle : handle w (Http.payload _) with ⟨crash | answer, after⟩
  · rw [hhandle] at hworld
    obtain ⟨hserve, hresponse⟩ := serve_sameButLog hread
      (.answered hreads (.crashed hresolves (payload_eq_iff.mp rfl) hhandle))
    refine ⟨(hworld.write _).trans hserve, ?_⟩
    intro _ _ message hmessage
    obtain ⟨_, _, ⟨⟩, hstatus⟩ := hresponse message hmessage
    exact hstatus
  · rw [hhandle] at hworld hanswer
    obtain ⟨hserve, -⟩ := serve_sameButLog hread
      (.answered hreads (.handled hresolves (payload_eq_iff.mp rfl) hhandle))
    refine ⟨hworld.trans hserve, ?_⟩
    intro crash hcrash
    rw [hcrash] at hanswer
    cases hanswer

/-- A handler that is called without an execution is called with a statement that is refused, or with
none. -/
lemma handler_of_not_starts {request : Request} {handler : Handler} {payload : Json}
    (hread : faults.read = false) (hnot : ∀ d, ¬Starts server (raw, faults) d)
    (hreads : Reads server.maxBody raw (.ok request))
    (hresolves : router.Resolves request.head.method request.head.path (.ok handler))
    (hpayload : Carries request.body payload) :
    w.SameButLog (handler w payload).2 ∧
      ∀ answer, (handler w payload).1 = .ok answer → answer.status = 400 := by
  obtain ⟨hmethod, hpath, rfl⟩ := resolves_router_iff.mp hresolves
  rcases hparse : Statement.parse (statement? payload) with rejection | d
  · exact handle_of_parse_eq_error hparse
  · exfalso
    rcases hstatement : statement? payload with _ | statement
    · rw [hstatement] at hparse
      cases hparse
    · rw [← payload_eq_iff.mpr hpayload] at hstatement hparse
      rw [hstatement] at hparse
      exact hnot d ⟨hread, statement, ⟨hreads, hmethod, hpath, hstatement⟩, hparse⟩

/-- Without an execution nothing happens in the world, and what is answered is a refusal. -/
lemma decides_of_not_starts (hrouter : server.router = router) (hread : faults.read = false)
    (hnot : ∀ d, ¬Starts server (raw, faults) d) {answer : Option (Answer × List (Text × Text))}
    (hdecides : Decides server w raw answer w') :
    w.SameButLog w' ∧ ∀ a headers, answer = some (a, headers) → a.status ∈ refusals := by
  have hrefusal {status : Int} {message : Text} {headers : List (Text × Text)}
      (hstatus : status ∈ refusals) : ∀ a headers',
        some (errorAnswer status message, headers) = some (a, headers') → a.status ∈ refusals := by
    rintro a headers' ⟨⟩
    exact hstatus
  cases hdecides with
  | headTooLong _ | malformed _ | bodyTooLong _ =>
    exact ⟨World.SameButLog.refl w, hrefusal (by simp [refusals])⟩
  | incomplete _ =>
    refine ⟨World.SameButLog.refl w, ?_⟩
    rintro a headers ⟨⟩
  | answered hreads hanswers =>
    rw [hrouter] at hanswers
    cases hanswers with
    | noRoute _ | notAllowed _ =>
      exact ⟨World.SameButLog.refl w, hrefusal (by simp [refusals])⟩
    | handled hresolves hpayload hanswer =>
      obtain ⟨hworld, hstatus⟩ := handler_of_not_starts (w := w) hread hnot hreads hresolves hpayload
      rw [hanswer] at hworld hstatus
      refine ⟨hworld, ?_⟩
      rintro a headers ⟨⟩
      simp [refusals, hstatus]
    | crashed hresolves hpayload hcrash =>
      obtain ⟨hworld, -⟩ := handler_of_not_starts (w := w) hread hnot hreads hresolves hpayload
      rw [hcrash] at hworld
      exact ⟨hworld.write _, hrefusal (by simp [refusals])⟩

/-- A connection that starts no execution leaves the world as it is, but for the log. -/
lemma serve_of_not_starts (hrouter : server.router = router)
    (hnot : ∀ d, ¬Starts server (raw, faults) d) : w.SameButLog (server.serve w raw faults).2 ∧
      ∀ message, (server.serve w raw faults).1.response = some message →
        ∃ status ∈ refusals, message.HasStatus status := by
  cases hread : faults.read with
  | true =>
    rw [serve_of_read hread]
    refine ⟨World.SameButLog.refl w, ?_⟩
    rintro message ⟨⟩
  | false =>
    obtain ⟨answer, w', hdecides⟩ := exists_decides server w raw
    obtain ⟨hserve, hresponse⟩ := serve_sameButLog hread hdecides
    obtain ⟨hworld, hstatus⟩ := decides_of_not_starts hrouter hread hnot hdecides
    refine ⟨hworld.trans hserve, ?_⟩
    intro message hmessage
    obtain ⟨a, headers, hanswer, hline⟩ := hresponse message hmessage
    exact ⟨_, hstatus a headers hanswer, hline⟩

end

/-! ## Runs of connections -/

/-- The entries of a list at the positions that are kept. -/
def kept {α : Type} (keep : Nat → Bool) : List α → List α
  | [] => []
  | a :: rest =>
    let others := kept (fun i => keep (i + 1)) rest
    if keep 0 then a :: others else others

/-- The world after some connections. -/
def worldAfter (server : Server) (w : World) (connections : List (List UInt8 × Faults)) : World :=
  connections.foldl (fun w connection => (server.serve w.forget connection.1 connection.2).2) w

/-- What is known of a connection that is served in a world, and of what it did to the world. -/
structure Accounts (server : Server) (w : World) (connection : List UInt8 × Faults)
    (outcome : Outcome) (after : World) : Prop where
  /-- Without an execution nothing is used up, no call is made, and there is no response but a
  refusal. -/
  idle : (∀ d, ¬Starts server connection d) → after.forget = w.forget ∧ after.sent = [] ∧
    ∀ message, outcome.response = some message → ∃ status ∈ refusals, message.HasStatus status
  /-- What is used up is what the execution uses up. -/
  executed : ∀ d, Starts server connection d → after.forget = (execute w.forget d).2.forget
  /-- An execution makes one call if the clock shows a time. -/
  timed : ∀ d start, Starts server connection d → World.milliseconds w.startReading = .ok start →
    after.sent = [Client.call d]
  /-- An execution ends at once if the clock shows no time. -/
  untimed : ∀ d crash, Starts server connection d →
    World.milliseconds w.startReading = .error crash → after.sent = [] ∧
      ∀ message, outcome.response = some message → message.HasStatus 500

section

variable {server : Server}

lemma accounts_serve (hrouter : server.router = router) (w : World)
    (connection : List UInt8 × Faults) :
    Accounts server w connection (server.serve w.forget connection.1 connection.2).1
      (server.serve w.forget connection.1 connection.2).2 := by
  refine ⟨?_, ?_, ?_, ?_⟩
  · intro hnot
    obtain ⟨hworld, hresponse⟩ := serve_of_not_starts (w := w.forget) hrouter hnot
    exact ⟨hworld.forget_eq, hworld.sent, hresponse⟩
  · intro d hstarts
    exact (serve_of_starts hrouter hstarts).1.forget_eq
  · intro d start hstarts hstart
    obtain ⟨hworld, -⟩ := serve_of_starts (w := w.forget) hrouter hstarts
    rw [hworld.sent, Execution.sent_execute (w := w.forget) hstart]
    rfl
  · intro d crash hstarts hstart
    obtain ⟨hworld, hresponse⟩ := serve_of_starts (w := w.forget) hrouter hstarts
    have hexecute := Execution.execute_of_error (w := w.forget) (d := d) hstart
    rw [hexecute] at hworld hresponse
    exact ⟨hworld.sent, hresponse crash rfl⟩

lemma serveAll_congr {w w' : World} (h : w.forget = w'.forget)
    (connections : List (List UInt8 × Faults)) :
    server.serveAll w connections = server.serveAll w' connections := by
  cases connections with
  | nil => rfl
  | cons connection rest => rw [Server.serveAll, Server.serveAll, h]

/-- A connection in a run is served in the world after those before it. -/
lemma getElem?_serveAll (w : World) (connections : List (List UInt8 × Faults)) (i : Nat) :
    (server.serveAll w connections)[i]? = connections[i]?.map fun connection =>
      server.serve (worldAfter server w (connections.take i)).forget connection.1 connection.2 := by
  induction connections generalizing w i with
  | nil => rfl
  | cons connection rest ih =>
    rw [Server.serveAll]
    cases i with
    | zero => rfl
    | succ i =>
      rw [List.getElem?_cons_succ, List.getElem?_cons_succ, ih]
      rfl

/-- What is left out of a run does not matter for the rest if it starts no execution. -/
lemma kept_serveAll (hrouter : server.router = router) (w : World) (keep : Nat → Bool)
    (connections : List (List UInt8 × Faults))
    (hidle : ∀ i connection, connections[i]? = some connection → keep i = false →
      ∀ d, ¬Starts server connection d) :
    kept keep (server.serveAll w connections) = server.serveAll w (kept keep connections) := by
  induction connections generalizing w keep with
  | nil => rfl
  | cons connection rest ih =>
    rw [Server.serveAll, kept, kept]
    rw [ih _ _ fun i other hother => hidle (i + 1) other hother]
    cases hkeep : keep 0 with
    | true => rfl
    | false =>
      -- The first connection is left out, and the world after it is the one before it.
      obtain ⟨hworld, -⟩ := serve_of_not_starts (w := w.forget) hrouter
        (hidle 0 connection rfl hkeep)
      have hforget : (server.serve w.forget connection.1 connection.2).2.forget = w.forget :=
        hworld.forget_eq
      exact serveAll_congr hforget _

/-- **Connections that start no execution leave no trace**: if any of them are left out of a run, the
outcomes of all others and what these do to the world stay the same. They make no call, and they are
answered with a refusal if at all. An execution makes one call, unless the clock shows no time at its
start. -/
theorem serveAll_kept (hrouter : server.router = router) (w : World)
    (connections : List (List UInt8 × Faults)) :
    (∀ keep : Nat → Bool,
      (∀ i connection, connections[i]? = some connection → keep i = false →
        ∀ d, ¬Starts server connection d) →
      kept keep (server.serveAll w connections) = server.serveAll w (kept keep connections)) ∧
    ∀ i connection, connections[i]? = some connection → ∃ outcome after,
      (server.serveAll w connections)[i]? = some (outcome, after) ∧
        Accounts server (worldAfter server w (connections.take i)) connection outcome after := by
  refine ⟨fun keep => kept_serveAll hrouter w keep connections, ?_⟩
  intro i connection hconnection
  refine ⟨_, _, ?_, accounts_serve hrouter _ connection⟩
  rw [getElem?_serveAll, hconnection]
  rfl

/-- A connection without a request and one that is reset are left out. -/
theorem serveAll_kept_get :
    let server : Server :=
      { router := Service.router, maxBody := 1048576, name := "courier", date := "today" }
    let raw := ("POST / HTTP/1.1\r\nContent-Length: 38\r\n\r\n" ++
      "\x7b\"reqline\":\"HTTP GET | URL http://a/\"\x7d").toUTF8.toList
    let d : Descriptor := ⟨.get, "http://a/", [], [], [], "http://a/"⟩
    let connections : List (List UInt8 × Faults) := [([], {}), (raw, {}), (raw, { read := true })]
    kept (· == 1) (server.serveAll {} connections) = server.serveAll {} [(raw, {})] ∧
      (server.serveAll {} connections)[1]?.map (·.2.sent) = some [Client.call d] := by
  intro server raw d connections
  have hstarts : Starts server (raw, {}) d := ⟨rfl, _, posts_get, fits_get.accepted⟩
  have hnone : ∀ d, ¬Starts server ([], {}) d := by
    rintro d ⟨-, statement, ⟨hreads, -⟩, -⟩
    cases readRequest_eq_iff.mpr hreads
  have hreset : ∀ d, ¬Starts server (raw, { read := true }) d := by
    rintro d ⟨hread, -⟩
    cases hread
  have hrouter : server.router = router := rfl
  obtain ⟨hkept, haccounts⟩ := serveAll_kept hrouter {} connections
  constructor
  · refine hkept (· == 1) ?_
    rintro (_ | _ | _ | i) connection ⟨⟩ hkeep
    · exact hnone
    · cases hkeep
    · exact hreset
  · obtain ⟨outcome, after, hserved, haccount⟩ := haccounts 1 _ rfl
    have hstart : World.milliseconds (worldAfter server {} (connections.take 1)).startReading =
        .ok 0 := by
      decide +kernel
    rw [hserved, Option.map_some, haccount.timed d 0 hstarts hstart]

/-- After a reading of the clock that is finite in seconds and infinite in milliseconds, an execution
makes no call. -/
theorem serveAll_infinite :
    let server : Server :=
      { router := Service.router, maxBody := 1048576, name := "courier", date := "today" }
    let raw := ("POST / HTTP/1.1\r\nContent-Length: 38\r\n\r\n" ++
      "\x7b\"reqline\":\"HTTP GET | URL http://a/\"\x7d").toUTF8.toList
    let d : Descriptor := ⟨.get, "http://a/", [], [], [], "http://a/"⟩
    let w : World := { clock := [Binary64.ofDigits false "1" [] 306] }
    w.startReading.isFinite = true ∧ Starts server (raw, {}) d ∧
      (server.serveAll w [(raw, {})]).map (·.2.sent) = [[]] := by
  intro server raw d w
  have hstarts : Starts server (raw, {}) d := ⟨rfl, _, posts_get, fits_get.accepted⟩
  have hstart : World.milliseconds w.startReading = .error .timeInfinite := by
    simp only [w]
    decide +kernel
  have haccount : Accounts server w (raw, {}) _ _ := accounts_serve rfl w (raw, {})
  refine ⟨by decide +kernel, hstarts, ?_⟩
  show [(server.serve w.forget raw {}).2.sent] = [[]]
  rw [(haccount.untimed d .timeInfinite hstarts hstart).1]

end

end Service

end Courier
