import Courier.Proofs.Http.Message
import Courier.Proofs.Http.Request
import Courier.Proofs.Http.Routing
import Mathlib

/-!
# What a connection comes to

The bytes of a connection decide what is answered to it, if anything, and the answer decides what is
done to the connection: its message is written if there is an answer and it can be sent, and the
connection is closed. What goes wrong with the connection meanwhile has little influence. If reading
fails, nothing is answered and nothing happens in the world; if the client does not wait for the
response, or closing fails, the same is done as without that, and only the log tells.
-/

namespace Courier

namespace Http

/-! ## Answers -/

/-- What a server decides to answer to the bytes of a connection, if anything, with the headers that
belong to the answer, and what becomes of the world until then. -/
inductive Decides (server : Server) (w : World) (raw : List UInt8) :
    Option (Answer × List (Text × Text)) → World → Prop
  | headTooLong (hread : Reads server.maxBody raw (.error .headTooLong)) :
      Decides server w raw
        (some (errorAnswer 431 (Text.ofString "Request Header Fields Too Large"), [])) w
  /-- Nobody is left to read an answer. -/
  | incomplete (hread : Reads server.maxBody raw (.error .incomplete)) : Decides server w raw none w
  | malformed (hread : Reads server.maxBody raw (.error .malformed)) :
      Decides server w raw (some (errorAnswer 400 (Text.ofString "Bad Request"), [])) w
  | bodyTooLong (hread : Reads server.maxBody raw (.error .bodyTooLong)) :
      Decides server w raw (some (errorAnswer 413 (Text.ofString "Payload Too Large"), [])) w
  | answered {request : Request} {answer : Answer × List (Text × Text)} {w' : World}
      (hread : Reads server.maxBody raw (.ok request))
      (hanswers : Answers server.router w request answer w') :
      Decides server w raw (some answer) w'

/-- What an answer, or none, leads to on a connection that stays intact. -/
inductive Delivers (server : Server) : Option (Answer × List (Text × Text)) → Outcome → Prop
  | silent : Delivers server none { events := [.close, .waitClosed] }
  | written {answer : Answer} {headers : List (Text × Text)}
      (hsendable : Message.IsSendable server.name server.date headers) :
      Delivers server (some (answer, headers))
        { events := [.write (Message.ofAnswer server.name server.date answer headers), .drain,
            .close, .waitClosed] }
  /-- A head that is not Latin-1 cannot be written, and nothing else is. -/
  | unsendable {answer : Answer} {headers : List (Text × Text)}
      (hsendable : ¬Message.IsSendable server.name server.date headers) :
      Delivers server (some (answer, headers))
        { events := [.close, .waitClosed], raised := some .notLatin1 }

section

variable {server : Server} {w w' : World} {raw : List UInt8} {faults : Faults}
  {answer : Option (Answer × List (Text × Text))} {outcome : Outcome}

lemma exists_decides (server : Server) (w : World) (raw : List UInt8) :
    ∃ answer w', Decides server w raw answer w' := by
  obtain ⟨read, hread⟩ := exists_reads server.maxBody raw
  match read with
  | .error .headTooLong => exact ⟨_, _, .headTooLong hread⟩
  | .error .incomplete => exact ⟨_, _, .incomplete hread⟩
  | .error .malformed => exact ⟨_, _, .malformed hread⟩
  | .error .bodyTooLong => exact ⟨_, _, .bodyTooLong hread⟩
  | .ok request =>
    obtain ⟨answer, w', hanswers⟩ := exists_answers server.router w request
    exact ⟨_, _, .answered hread hanswers⟩

lemma exists_delivers (server : Server) (answer : Option (Answer × List (Text × Text))) :
    ∃ outcome, Delivers server answer outcome := by
  match answer with
  | none => exact ⟨_, .silent⟩
  | some (answer, headers) =>
    by_cases hsendable : Message.IsSendable server.name server.date headers
    · exact ⟨_, .written hsendable⟩
    · exact ⟨_, .unsendable hsendable⟩

/-! ## One layer after another -/

lemma Connection.shut_eq (c : Connection) (faults : Faults) :
    c.shut faults = (.ok (), (c.note .close).note .waitClosed) := by
  rw [shut, waitClosed]
  cases faults.close <;> rfl

/-- The connection after a message was written to it. -/
def Connection.afterWriting (c : Connection) (faults : Faults) (message : Message) : Connection :=
  let c := (c.note (.write message)).note .drain
  if faults.drain then c.log goneLine else c

lemma respond_of_isSendable {headers : List (Text × Text)}
    (h : Message.IsSendable server.name server.date headers) (faults : Faults) (c : Connection)
    (answer : Answer) : server.respond faults c answer headers =
      (.ok (), c.afterWriting faults (Message.ofAnswer server.name server.date answer headers)) := by
  rw [Server.respond]
  cases hbytes : (Message.ofAnswer server.name server.date answer headers).bytes? with
  | none => exact absurd h (Message.bytes?_eq_none_iff.mp hbytes)
  | some bytes =>
    dsimp only
    unfold Connection.drain Connection.afterWriting
    cases faults.drain <;> rfl

lemma respond_of_not_isSendable {headers : List (Text × Text)}
    (h : ¬Message.IsSendable server.name server.date headers) (faults : Faults) (c : Connection)
    (answer : Answer) : server.respond faults c answer headers = (.error .notLatin1, c) := by
  rw [Server.respond, Message.bytes?_eq_none_iff.mpr h]

lemma receive_eq (hread : faults.read = false) {read : Except Refusal Request}
    (h : Reads server.maxBody raw read) : server.receive raw faults = read.mapError .refused := by
  rw [Server.receive, hread, if_neg Bool.false_ne_true, h.readRequest_eq]

/-- A decision is carried out. -/
lemma Decides.process_eq (hread : faults.read = false) {c : Connection}
    (h : Decides server c.world raw answer w') : server.process raw faults c =
      match answer with
      | none => (.ok (), c)
      | some (answer, headers) => server.respond faults { c with world := w' } answer headers := by
  cases h with
  | headTooLong hreads | incomplete hreads | malformed hreads | bodyTooLong hreads =>
    rw [Server.process, receive_eq hread hreads]
    rfl
  | answered hreads hanswers =>
    rw [Server.process, receive_eq hread hreads]
    dsimp only [Except.mapError]
    rw [hanswers.dispatch_eq]

lemma Decides.world_eq (h : Decides server w raw none w') : w' = w := by
  cases h
  rfl

/-- Reading that fails is the end of it. -/
lemma process_of_read (hread : faults.read = true) (c : Connection) :
    server.process raw faults c = (.ok (), c) := by
  rw [Server.process, Server.receive, hread]
  rfl

lemma serve_of_process_ok {c : Connection}
    (h : server.process raw faults { world := w } = (.ok (), c)) :
    server.serve w raw faults = ({ events := c.events ++ [.close, .waitClosed] }, c.world) := by
  rw [Server.serve, Server.attend, h]
  dsimp only
  rw [Connection.shut_eq]
  simp [Connection.note]

lemma serve_of_process_error {raised : Raised} {c : Connection}
    (h : server.process raw faults { world := w } = (.error raised, c)) :
    server.serve w raw faults =
      ({ events := c.events ++ [.close, .waitClosed], raised }, c.world) := by
  rw [Server.serve, Server.attend, h]
  dsimp only
  rw [Connection.shut_eq]
  simp [Connection.note]

/-- What is decided is delivered, and if the client did not wait for it, that goes to the log. -/
lemma serve_of_decides (hread : faults.read = false) (hdecides : Decides server w raw answer w')
    (hdelivers : Delivers server answer outcome) : server.serve w raw faults =
      (outcome, if faults.drain = true ∧ outcome.response.isSome = true then w'.write goneLine
        else w') := by
  have hprocess := Decides.process_eq hread (c := { world := w }) hdecides
  cases hdelivers with
  | silent =>
    rw [serve_of_process_ok hprocess, hdecides.world_eq]
    simp [Outcome.response, Event.message?]
  | written hsendable =>
    dsimp only at hprocess
    rw [respond_of_isSendable hsendable] at hprocess
    rw [serve_of_process_ok hprocess]
    unfold Connection.afterWriting
    cases faults.drain <;> simp [Connection.note, Connection.log, Outcome.response, Event.message?]
  | unsendable hsendable =>
    dsimp only at hprocess
    rw [respond_of_not_isSendable hsendable] at hprocess
    rw [serve_of_process_error hprocess]
    simp [Outcome.response, Event.message?]

lemma serve_of_read (hread : faults.read = true) :
    server.serve w raw faults = ({ events := [.close, .waitClosed] }, w) :=
  serve_of_process_ok (process_of_read hread _)

end

/-! ## Without faults -/

section

variable {server : Server} {w w' : World} {raw : List UInt8} {outcome : Outcome}

lemma serve_of_intact {answer : Option (Answer × List (Text × Text))}
    (hdecides : Decides server w raw answer w') (hdelivers : Delivers server answer outcome) :
    server.serve w raw {} = (outcome, w') := by
  rw [serve_of_decides rfl hdecides hdelivers, if_neg (fun h => Bool.false_ne_true h.1)]

/-- A decision leaves one outcome. -/
lemma Decides.serve_iff {answer : Option (Answer × List (Text × Text))} {after : World}
    (h : Decides server w raw answer after) :
    server.serve w raw {} = (outcome, w') ↔ w' = after ∧ Delivers server answer outcome := by
  constructor
  · intro hserve
    obtain ⟨outcome', hdelivers⟩ := exists_delivers server answer
    obtain ⟨rfl, rfl⟩ := Prod.mk.inj ((serve_of_intact h hdelivers).symm.trans hserve)
    exact ⟨rfl, hdelivers⟩
  · rintro ⟨rfl, hdelivers⟩
    exact serve_of_intact h hdelivers

end

/-! ## What follows a request -/

/-- That two messages are the same but for their dates. -/
structure Message.SameButDate (m m' : Message) : Prop where
  statusLine : m.statusLine = m'.statusLine
  headers : (m.headers.filter fun field => field.1 ≠ Text.ofString "Date") =
    m'.headers.filter fun field => field.1 ≠ Text.ofString "Date"
  body : m.body = m'.body

lemma Message.sameButDate_ofAnswer (server date date' : Text) (answer : Answer)
    (headers : List (Text × Text)) :
    SameButDate (ofAnswer server date answer headers) (ofAnswer server date' answer headers) := by
  refine ⟨rfl, ?_, rfl⟩
  simp [ofAnswer, Text.ofString_inj]

section

variable {server : Server} {w w' : World} {raw : List UInt8}

/-- A date is for the answers only. -/
lemma Decides.withDate {answer : Option (Answer × List (Text × Text))}
    (h : Decides server w raw answer w') (date : Text) :
    Decides { server with date } w raw answer w' := by
  cases h with
  | headTooLong hread => exact .headTooLong hread
  | incomplete hread => exact .incomplete hread
  | malformed hread => exact .malformed hread
  | bodyTooLong hread => exact .bodyTooLong hread
  | answered hread hanswers => exact .answered hread hanswers

/-- No bytes that follow change an answer. -/
lemma Decides.append {answer : Answer × List (Text × Text)}
    (h : Decides server w raw (some answer) w') (extra : List UInt8) :
    Decides server w (raw ++ extra) (some answer) w' := by
  cases h with
  | headTooLong hread => exact .headTooLong (hread.append (by simp) extra)
  | malformed hread => exact .malformed (hread.append (by simp) extra)
  | bodyTooLong hread => exact .bodyTooLong (hread.append (by simp) extra)
  | answered hread hanswers => exact .answered (hread.append (by simp) extra) hanswers

/-- **No bytes that follow a request change the response to it**, and what becomes of the world is the
same as well. Only the date is that of the day. -/
theorem serve_append {message : Message}
    (hresponse : (server.serve w raw {}).1.response = some message) {date : Text}
    (hdate : Text.IsLatin1 date) (extra : List UInt8) :
    ∃ message', (Server.serve { server with date } w (raw ++ extra) {}).1.response = some message' ∧
      message.SameButDate message' ∧
        (Server.serve { server with date } w (raw ++ extra) {}).2 = (server.serve w raw {}).2 := by
  cases hserve : server.serve w raw {} with
  | mk outcome w' =>
    rw [hserve] at hresponse
    obtain ⟨answer, after, hdecides⟩ := exists_decides server w raw
    obtain ⟨rfl, hdelivers⟩ := hdecides.serve_iff.mp hserve
    cases hdelivers with
    | silent => cases hresponse
    | unsendable _ => cases hresponse
    | @written answer headers hsendable =>
      cases hresponse
      have hsendable' : Message.IsSendable server.name date headers :=
        ⟨hsendable.server, hdate, hsendable.headers⟩
      rw [serve_of_intact ((hdecides.append extra).withDate date) (.written hsendable')]
      exact ⟨_, rfl, Message.sameButDate_ofAnswer _ _ _ _ _, rfl⟩

/-- A second request on a connection is not even looked at. -/
theorem serve_append_second :
    let server : Server := {
      router := { routes := [⟨"POST", "/", fun w payload => (.ok ⟨200, payload⟩, w)⟩] }
      maxBody := 10
      name := "echo"
      date := "today" }
    let raw := "POST / HTTP/1.1\r\nContent-Length: 1\r\n\r\n7".toUTF8.toList
    let extra := "8 POST / HTTP/1.1\r\n\r\n".toUTF8.toList
    let message := Message.ofAnswer "echo" "today" ⟨200, .int 7⟩ []
    (server.serve {} raw {}).1.response = some message ∧ Text.IsLatin1 "tomorrow" ∧
      ∃ message', (Server.serve { server with date := "tomorrow" } {} (raw ++ extra) {}).1.response =
          some message' ∧ message.SameButDate message' ∧
        (Server.serve { server with date := "tomorrow" } {} (raw ++ extra) {}).2 =
          (server.serve {} raw {}).2 := by
  intro server raw extra message
  have hread : readRequest server.maxBody raw = .ok ⟨⟨"POST", "/", "HTTP/1.1",
      [(Text.ofString "content-length", "1")]⟩, "7".toUTF8.toList⟩ := by
    simp only [server, raw]
    decide +kernel
  have hdispatch : dispatch server.router {} ⟨⟨"POST", "/", "HTTP/1.1",
      [(Text.ofString "content-length", "1")]⟩, "7".toUTF8.toList⟩ =
        ((⟨200, .int 7⟩, []), {}) := by
    simp only [server]
    cbv
  have hdecides := Decides.answered (readRequest_eq_iff.mp hread) (dispatch_eq_iff.mp hdispatch)
  have hsendable : Message.IsSendable server.name server.date [] := ⟨by decide, by decide, by simp⟩
  have hresponse : (server.serve {} raw {}).1.response = some message := by
    rw [serve_of_intact hdecides (.written hsendable)]
    rfl
  have hdate : Text.IsLatin1 "tomorrow" := by decide
  exact ⟨hresponse, hdate, serve_append hresponse hdate extra⟩

end

/-! ## With faults -/

/-- That all texts that a server may have to put into a head are Latin-1. -/
structure Server.IsLatin1 (server : Server) : Prop where
  name : Text.IsLatin1 server.name
  date : Text.IsLatin1 server.date
  methods : ∀ route ∈ server.router.routes, Text.IsLatin1 route.method

section

variable {server : Server} {w w' : World} {raw : List UInt8}

lemma Answers.isLatin1 {router : Router Handler} {request : Request} {answer : Answer}
    {headers : List (Text × Text)}
    (hmethods : ∀ route ∈ router.routes, Text.IsLatin1 route.method)
    (h : Answers router w request (answer, headers) w') :
    ∀ field ∈ headers, Text.IsLatin1 field.1 ∧ Text.IsLatin1 field.2 := by
  cases h with
  | noRoute _ | handled _ _ _ | crashed _ _ _ => simp
  | @notAllowed allowed h =>
    have hallowed : ∀ method ∈ allowed, Text.IsLatin1 method := by
      intro method hmethod
      obtain ⟨route, hroute, rfl⟩ := h.exists_route hmethod
      exact hmethods route hroute
    intro field hfield
    rw [List.mem_singleton] at hfield
    subst hfield
    have hname : Text.IsLatin1 (Text.ofString "Allow") := by decide
    exact ⟨hname, (Text.isLatin1_join (by decide)).mpr hallowed⟩

end

end Http

end Courier
