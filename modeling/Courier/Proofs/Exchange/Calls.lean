import Courier.Proofs.Exchange.Execution
import Courier.Proofs.Statement.Grammar
import Mathlib

/-!
# The call of a request

A request that is executed is one call of the client, and what is called for is what the statement
says: the method, the URL with the query, and the texts of the headers. The checks that come before
anything is sent decide only whether there is a body for the server. If there is one, it is the section
of the statement in compact JSON, and the section can be read from it again.
-/

namespace Courier

section

variable {w : World} {d : Descriptor}

namespace Client

/-- The call that is made for a request. It has a body if the request passes all checks. -/
def call (d : Descriptor) : Call where
  method := d.method
  url := d.fullUrl
  headers := headers d
  body := (check d).toOption.map fun _ => body d

lemma sent_send (w : World) (d : Descriptor) : (send w d).2.sent = w.sent ++ [call d] := by
  unfold send call
  cases check d <;> rfl

lemma body_call_eq_some_iff {text : Text} :
    (call d).body = some text ↔ (∃ u, check d = .ok u) ∧ text = body d := by
  unfold call
  cases check d with
  | error stop => simp [Except.toOption]
  | ok u => simp [Except.toOption, @eq_comm _ text]

/-- A body that is sent holds finite numbers only. -/
lemma isFinite_body {u : Url} (h : check d = .ok u) (hpost : d.method = .post) :
    (Json.object d.body).isFinite = true := by
  rw [check_eq, bind_eq_ok_iff] at h
  obtain ⟨u', -, h⟩ := h
  rw [bind_eq_ok_iff] at h
  obtain ⟨_, -, h⟩ := h
  by_contra hfinite
  rw [if_pos ⟨hpost, by simpa using hfinite⟩] at h
  cases h

end Client

namespace Execution

lemma sent_finish (w : World) (start status : Int) (data : Json) :
    (finish w start status data).2.sent = w.sent := by
  rw [finish, World.tick_eq]
  cases World.milliseconds w.startReading <;> rfl

/-- An execution that is started at a time makes one call, whatever comes of it. -/
lemma sent_execute {start : Int} (h : World.milliseconds w.startReading = .ok start) :
    (execute w d).2.sent = w.sent ++ [Client.call d] := by
  have hsend := Client.sent_send w.started d
  rw [execute, World.tick_eq, h]
  dsimp only
  generalize Client.send w.started d = sent at hsend ⊢
  obtain ⟨result, after⟩ := sent
  rcases result with (⟨failure, message⟩ | crash) | ⟨status, data⟩
  · exact (sent_finish _ start 0 _).trans hsend
  · exact hsend
  · exact (sent_finish _ start status data).trans hsend

/-- An execution that is not started at a time is over. -/
lemma execute_of_error {crash : Crash} (h : World.milliseconds w.startReading = .error crash) :
    execute w d = (.error crash, w.started) := by
  rw [execute, World.tick_eq, h]

end Execution

/-! ## Bodies -/

namespace Statement

variable {statement : Text}

/-- The body of a statement that is accepted can be sent as far as its text is concerned. -/
lemma exists_encode?_body (hparse : parse (some statement) = .ok d) :
    ∃ bytes, Utf8.encode? (Json.object d.body).toText = some bytes ∧
      Utf8.decode? .refused bytes = some (Json.object d.body).toText := by
  have hencodable := isEncodable_of_parse hparse .body
  have hsurrogate : Text.hasSurrogate (Json.object d.body).toText = false := by
    rw [Json.hasSurrogate_toText, Bool.not_eq_false']
    exact hencodable
  refine ⟨Utf8.encode (Json.object d.body).toText, ?_, Utf8.decode?_encode _ hsurrogate⟩
  rw [Utf8.encode?, hsurrogate]
  rfl

/-- A body without infinite numbers is read from its text again. -/
lemma decode_toText_body (hparse : parse (some statement) = .ok d)
    (hfinite : (Json.object d.body).isFinite = true) :
    Section.body.decode (Json.object d.body).toText = .ok d.body := by
  refine decode_eq_ok_iff.mpr ⟨?_, isEncodable_of_parse hparse .body⟩
  exact Json.read?_write Json.isJson_compact (Json.keeps_isFinite rfl) hfinite
    (isRegular_of_parse hparse .body) (depth_le_of_parse hparse .body)

end Statement

end

namespace Execution

section

variable {w : World} {statement : Text} {d : Descriptor}

/-- **What is called for is what the statement says**: an execution that is started at a time makes one
call, with the method, the full URL and the texts of the headers in their order. The call has a body if
the request passes the checks of the client: an empty one for a GET, and for a POST the text of the
section, which has a UTF-8 form whether or not it is sent, and from which the section is read again. An
execution that is not started at a time makes no call. -/
theorem sent_execute_of_parse (hparse : Statement.parse (some statement) = .ok d) :
    (∀ start, World.milliseconds w.startReading = .ok start → ∃ call : Call,
      (execute w d).2.sent = w.sent ++ [call] ∧ call.method = d.method ∧ call.url = d.fullUrl ∧
        call.headers = d.headers.map (fun field => (field.1, field.2.toText)) ∧
        (call.body.isSome = true ↔ ∃ u, Client.check d = .ok u) ∧
        (d.method = .get → ∀ text, call.body = some text → text = []) ∧
        (d.method = .post → ∀ text, call.body = some text → text = (Json.object d.body).toText ∧
          Section.body.decode text = .ok d.body)) ∧
    (∃ bytes, Utf8.encode? (Json.object d.body).toText = some bytes ∧
      Utf8.decode? .refused bytes = some (Json.object d.body).toText) ∧
    ∀ crash, World.milliseconds w.startReading = .error crash →
      (execute w d).1 = .error crash ∧ (execute w d).2.sent = w.sent := by
  refine ⟨?_, Statement.exists_encode?_body hparse, ?_⟩
  · intro start hstart
    refine ⟨Client.call d, sent_execute hstart, rfl, rfl, rfl, ?_, ?_, ?_⟩
    · rw [Option.isSome_iff_exists]
      simp [Client.body_call_eq_some_iff]
    · rintro hget text htext
      obtain ⟨-, rfl⟩ := Client.body_call_eq_some_iff.mp htext
      rw [Client.body, hget]
    · rintro hpost text htext
      obtain ⟨⟨u, hu⟩, rfl⟩ := Client.body_call_eq_some_iff.mp htext
      have hbody : Client.body d = (Json.object d.body).toText := by
        rw [Client.body, hpost]
        rfl
      rw [hbody]
      exact ⟨rfl, Statement.decode_toText_body hparse (Client.isFinite_body hu hpost)⟩
  · intro crash hcrash
    rw [execute_of_error hcrash]
    exact ⟨rfl, rfl⟩

/-- The body of a POST that is sent is the section, with its blanks left out. -/
theorem sent_execute_of_parse_post :
    let statement := Text.ofString "HTTP POST | URL http://a/ | BODY \x7b \"ä\": [1, null] \x7d"
    let d : Descriptor := ⟨.post, "http://a/", [], [],
      [("ä", .array [.int 1, .null])], "http://a/"⟩
    Statement.parse (some statement) = .ok d ∧ World.milliseconds (World.startReading {}) = .ok 0 ∧
      ∃ call : Call, (execute {} d).2.sent = [call] ∧ call.method = .post ∧
        call.body = some (Text.ofString "\x7b\"ä\":[1,null]\x7d") ∧
          Section.body.decode (Text.ofString "\x7b\"ä\":[1,null]\x7d") = .ok d.body := by
  intro statement d
  have hparse : Statement.parse (some statement) = .ok d := by
    simp only [statement, d]
    cbv
  have hstart : World.milliseconds (World.startReading {}) = .ok 0 := by decide +kernel
  have hcheck : ∃ u, Client.check d = .ok u := ⟨_, by simp only [d]; cbv⟩
  have htext : (Json.object d.body).toText = Text.ofString "\x7b\"ä\":[1,null]\x7d" := by
    simp only [d]
    cbv
  obtain ⟨hcalls, -, -⟩ := sent_execute_of_parse (w := {}) hparse
  obtain ⟨call, hsent, hmethod, -, -, hreaches, -, hpost⟩ := hcalls 0 hstart
  obtain ⟨text, hbody⟩ := Option.isSome_iff_exists.mp (hreaches.mpr hcheck)
  obtain ⟨rfl, hdecode⟩ := hpost rfl text hbody
  rw [htext] at hbody hdecode
  exact ⟨hparse, hstart, call, hsent, hmethod, hbody, hdecode⟩

/-- A clock may show a time that is finite in seconds and infinite in milliseconds. Then nothing is
sent. -/
theorem sent_execute_infinite :
    let w : World := { clock := [Binary64.ofDigits false "1" [] 306] }
    let d : Descriptor := ⟨.get, "http://a/", [], [], [], "http://a/"⟩
    Statement.parse (some (Text.ofString "HTTP GET | URL http://a/")) = .ok d ∧
      w.startReading.isFinite = true ∧ (execute w d).1 = .error .timeInfinite ∧
        (execute w d).2.sent = [] := by
  intro w d
  have hparse : Statement.parse (some (Text.ofString "HTTP GET | URL http://a/")) = .ok d := by
    simp only [d]
    cbv
  have hstart : World.milliseconds w.startReading = .error .timeInfinite := by
    simp only [w]
    decide +kernel
  rw [execute_of_error hstart]
  refine ⟨hparse, ?_, rfl, rfl⟩
  simp only [w]
  decide +kernel

end

end Execution

end Courier
