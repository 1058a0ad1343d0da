import Courier.Proofs.Http.Connection
import Courier.Proofs.Http.Lines
import Courier.Proofs.Json.Bytes
import Courier.Proofs.Json.Derivation
import Courier.Proofs.Json.Pairs

/-!
# Responses

Whatever a connection is answered, by a handler or by the server itself, its response is framed in one
way: a head of lines, which gives the length of the body and says that the connection is closed, and a
body in ASCII that is JSON for the data of the answer. All of the data is in the body, if it was read
from JSON itself, has finite numbers, and has no two surrogates that would be read as one code point.
-/

namespace Courier

namespace Ascii

variable {t : Text}

lemma encode?_eq_some (h : ∀ c ∈ t, c.isAscii = true) : encode? t = some (Latin1.bytes t) :=
  if_pos (List.all_eq_true.mpr h)

/-- In ASCII there is no difference between UTF-8 and Latin-1. -/
lemma utf8_encode_eq (h : ∀ c ∈ t, c.isAscii = true) : Utf8.encode t = Latin1.bytes t := by
  induction t with
  | nil => rfl
  | cons c t ih =>
    rw [List.forall_mem_cons] at h
    have hc : c.utf8 = [UInt8.ofNat c.toNat] := if_pos (of_decide_eq_true h.1)
    rw [Utf8.encode, List.flatMap_cons, hc, ← Utf8.encode, ih h.2]
    rfl

lemma isLatin1_of_isAscii (h : ∀ c ∈ t, c.isAscii = true) : t.IsLatin1 :=
  fun c hc => Nat.lt_trans (of_decide_eq_true (h c hc)) (by decide)

lemma toNat_lt_of_mem_bytes (h : ∀ c ∈ t, c.isAscii = true) : ∀ b ∈ Latin1.bytes t, b.toNat < 0x80 := by
  intro b hb
  obtain ⟨c, hc, rfl⟩ := List.mem_map.mp hb
  have hascii : c.toNat < 0x80 := of_decide_eq_true (h c hc)
  rwa [UInt8.toNat_ofNat_of_lt' (Nat.lt_trans hascii (by decide))]

end Ascii

/-! ## Data -/

namespace Json

/-- That a value is what some text is read as, with finite numbers, and that no high surrogate stands
directly before a low one in it. -/
structure IsReadable (v : Json) : Prop where
  read : ∃ dialect t, read? dialect t = some v
  finite : v.isFinite = true
  unpaired : ∀ s, v.HasText s → Text.isUnpaired s = true

/-- That nothing of a value is lost when it is written and read again. -/
structure IsKept (v : Json) : Prop where
  keepable : v.all Json.keepable = true
  regular : v.isRegular = true
  depth_le : v.depth ≤ maxNesting

variable {v : Json}

lemma IsReadable.isKept (h : v.IsReadable) : v.IsKept := by
  obtain ⟨dialect, t, hread⟩ := h.read
  exact ⟨all_keepable_of_all_isUnpaired (all_iff_forall_hasText.mpr h.unpaired) h.finite,
    isRegular_of_read? hread, depth_le_of_read? hread⟩

lemma isKept_errorData {text : Text} (h : Text.hasSurrogate text = false) :
    (Http.errorData text).IsKept := by
  have hdepth : (Http.errorData text).depth = 1 := rfl
  refine ⟨all_keepable_of_isEncodable ?_ rfl, rfl, hdepth ▸ by decide⟩
  have herror : Text.hasSurrogate (Text.ofString "error") = false := by decide
  have hmessage : Text.hasSurrogate (Text.ofString "message") = false := by decide
  simp [Http.errorData, isEncodable, all, membersAll, h, herror, hmessage]

/-- A value that is kept is what its text denotes. -/
lemma IsKept.isText (h : v.IsKept) (dialect : Dialect) : IsText dialect (v.write spacedAscii) v :=
  isText_of_read? (read?_write isJson_spacedAscii (keeps_keepable _) h.keepable h.regular h.depth_le)

lemma IsKept.ofBytes?_bytes (h : v.IsKept) :
    ofBytes? (Latin1.bytes (v.write spacedAscii)) = some v := by
  have hascii := isAscii_of_mem_write v
  have hsurrogate : Text.hasSurrogate (v.write spacedAscii) = false := by
    rw [Text.hasSurrogate_eq_false_iff]
    intro c hc
    have hlow : c.toNat < 0x80 := of_decide_eq_true (hascii c hc)
    simp only [CodePoint.isSurrogate, Bool.and_eq_false_iff, decide_eq_false_iff_not]
    omega
  rw [← Ascii.utf8_encode_eq hascii]
  exact ofBytes?_encode (h.isText .lenient) hsurrogate

end Json

namespace Http

/-! ## Messages -/

namespace Message

/-- A header as it stands in its line. -/
def fieldLine (field : Text × Text) : Text := field.1 ++ Text.ofString ": " ++ field.2

def statusLineOf (status : Int) : Text :=
  Text.ofString "HTTP/1.1 " ++ Text.ofInt status ++ (CodePoint.ofChar ' ' :: reason status)

/-- That a byte sequence is a response with an answer: it is cut at the first terminator into a head of
lines, the first with the status and each other with a header, and a body that is JSON for the data. -/
structure IsFramed (bytes head body : List UInt8) (fields : List (Text × Text)) (answer : Answer) :
    Prop where
  cuts : Head.Cuts bytes head body
  lines : ∃ ls, Head.IsLines head ls ∧
    ls.map Latin1.decode = statusLineOf answer.status :: fields.map fieldLine
  noColon : ∀ field ∈ fields, CodePoint.ofChar ':' ∉ field.1
  names : (fields.map fun field => Text.lowerLatin1 field.1).Nodup
  length : fields.filter (fun field => Text.lowerLatin1 field.1 = Text.ofString "content-length") =
    [(Text.ofString "Content-Length", Text.ofNat body.length)]
  connection : (Text.ofString "Connection", Text.ofString "close") ∈ fields
  ascii : ∀ b ∈ body, b.toNat < 0x80
  isText : Json.IsText .strict (Latin1.decode body) answer.data
  read : Json.ofBytes? body = some answer.data

/-- The headers that come with an answer: none, or the methods that are allowed. -/
inductive AreOwn : List (Text × Text) → Prop
  | nil : AreOwn []
  | allow {allowed : Text} (h : allowed.IsInline) : AreOwn [(Text.ofString "Allow", allowed)]

section

variable {server date : Text} {answer : Answer} {headers : List (Text × Text)}

lemma head_eq (m : Message) : m.head = Head.ofLines (m.statusLine :: m.headers.map fieldLine) := by
  simp [head, Head.ofLines, fieldLine, List.flatMap_map]

lemma isInline_statusLineOf (status : Int) : (statusLineOf status).IsInline := by
  have hreason : (reason status).IsInline := by
    intro c hc
    obtain ⟨⟨hascii, -⟩, hcontrol⟩ := isPlain_of_mem_reason status c hc
    refine ⟨Nat.lt_trans hascii (by decide), ?_⟩
    rintro rfl
    exact absurd hcontrol (by decide)
  have hnat : (Text.ofNat status.natAbs).IsInline :=
    Text.isInline_of_isDigit fun c => Text.isDigit_of_mem_ofNat
  have hint : (Text.ofInt status).IsInline := by
    unfold Text.ofInt
    split
    · exact Text.isInline_cons.mpr ⟨by decide, hnat⟩
    · exact hnat
  simp only [statusLineOf, Text.isInline_append, Text.isInline_cons]
  exact ⟨⟨by decide, hint⟩, by decide, hreason⟩

lemma isLine_ofAnswer (answer : Answer) (hserver : server.IsInline) (hdate : date.IsInline)
    (hheaders : AreOwn headers) :
    ∀ line ∈ (ofAnswer server date answer headers).statusLine ::
      (ofAnswer server date answer headers).headers.map fieldLine, Head.IsLine line := by
  have hfield : ∀ {name value : Text}, name.IsInline → value.IsInline →
      Head.IsLine (fieldLine (name, value)) := by
    intro name value hname hvalue
    refine ⟨by simp [fieldLine, Text.ofString], ?_⟩
    simp only [fieldLine, Text.isInline_append]
    exact ⟨⟨hname, by decide⟩, hvalue⟩
  have hlength (n : Nat) : (Text.ofNat n).IsInline :=
    Text.isInline_of_isDigit fun c => Text.isDigit_of_mem_ofNat
  have husual : ∀ line ∈ (ofAnswer server date answer []).headers.map fieldLine, Head.IsLine line := by
    simp only [ofAnswer, List.nil_append, List.map_cons, List.map_nil, List.forall_mem_cons]
    exact ⟨hfield (by decide) (by decide), hfield (by decide) (hlength _),
      hfield (by decide) hdate, hfield (by decide) hserver, hfield (by decide) (by decide), by simp⟩
  rw [List.forall_mem_cons]
  refine ⟨⟨by simp [ofAnswer], isInline_statusLineOf answer.status⟩, ?_⟩
  cases hheaders with
  | nil => exact husual
  | allow h => exact List.forall_mem_cons.mpr ⟨hfield (by decide) h, husual⟩

/-- **A message of an answer is framed**, if the texts that come from outside fit into its lines and
nothing of the data is lost. -/
theorem isFramed_ofAnswer (hserver : server.IsInline) (hdate : date.IsInline)
    (hheaders : AreOwn headers) (hdata : answer.data.IsKept) :
    ∃ bytes head body, (ofAnswer server date answer headers).bytes? = some bytes ∧
      IsFramed bytes head body (ofAnswer server date answer headers).headers answer := by
  have hlines := isLine_ofAnswer answer hserver hdate hheaders
  obtain ⟨head, hencode, -, hls, hcuts⟩ := Head.exists_head_ofLines (List.cons_ne_nil _ _) hlines
  have hascii := Json.isAscii_of_mem_write answer.data
  have hbody : Ascii.encode? (ofAnswer server date answer headers).body =
      some (Latin1.bytes (answer.data.write Json.spacedAscii)) := Ascii.encode?_eq_some hascii
  have hbytes : (ofAnswer server date answer headers).bytes? =
      some (head ++ (Head.terminator ++ Latin1.bytes (answer.data.write Json.spacedAscii))) := by
    rw [bytes?, head_eq, hencode, hbody, ← List.append_assoc]
    rfl
  have hlength : (Latin1.bytes (answer.data.write Json.spacedAscii)).length =
      (answer.data.write Json.spacedAscii).length := Latin1.length_bytes
  refine ⟨_, head, Latin1.bytes (answer.data.write Json.spacedAscii), hbytes, ?_⟩
  exact {
    cuts := hcuts _
    lines := ⟨_, hls, Head.map_decode_bytes hlines⟩
    noColon := by
      cases hheaders <;> simp only [ofAnswer, List.nil_append, List.cons_append, List.forall_mem_cons] <;>
        decide
    names := by
      cases hheaders <;> simp only [ofAnswer, List.nil_append, List.cons_append, List.map_cons,
        List.map_nil] <;> decide
    length := by
      rw [hlength]
      cases hheaders <;> rfl
    connection := by simp [ofAnswer]
    ascii := Ascii.toNat_lt_of_mem_bytes hascii
    isText := by
      rw [Latin1.decode_bytes (Ascii.isLatin1_of_isAscii hascii)]
      exact hdata.isText .strict
    read := hdata.ofBytes?_bytes }

end

end Message

/-! ## Connections -/

/-- That the texts of a server fit into the lines of a head and that its methods are letters. The date
is one that a clock prints, in words and digits. -/
structure Server.IsProper (server : Server) : Prop where
  name : server.name.IsInline
  date : server.date.IsInline
  methods : ∀ route ∈ server.router.routes, ∀ c ∈ route.method, c.isLetter = true

/-- That a handler of the server gives an answer to the bytes of a connection. -/
inductive Handled (server : Server) (w : World) (raw : List UInt8) (answer : Answer) : Prop
  | mk {request : Request} {handler : Handler} {payload : Json} {w' : World}
      (hread : Reads server.maxBody raw (.ok request))
      (hfound : server.router.Resolves request.head.method request.head.path (.ok handler))
      (hpayload : Carries request.body payload) (hanswer : handler w payload = (.ok answer, w'))

/-- That an answer is about an error, with a text that says which. -/
def IsError (answer : Answer) : Prop :=
  ∃ status ∈ [400, 404, 405, 413, 431, 500], ∃ text, answer = errorAnswer status text

section

variable {server : Server} {w w' : World} {raw : List UInt8} {faults : Faults} {answer : Answer}
  {headers : List (Text × Text)}

lemma isInline_of_isLetter {t : Text} (h : ∀ c ∈ t, c.isLetter = true) : t.IsInline := by
  intro c hc
  have hletter := h c hc
  refine ⟨?_, ?_⟩
  · simp only [CodePoint.isLetter, Bool.or_eq_true, Bool.and_eq_true, decide_eq_true_eq] at hletter
    omega
  · rintro rfl
    exact absurd hletter (by decide)

/-- The methods of a path can be named in a line. -/
lemma isInline_allowed (hserver : server.IsProper) {method path : Text} {allowed : List Text}
    (h : server.router.Resolves method path (.error (.notAllowed allowed))) :
    (Text.join (Text.ofString ", ") allowed).IsInline := by
  refine (Text.forall_mem_join (by decide)).mpr fun method hmethod => ?_
  obtain ⟨route, hroute, rfl⟩ := h.exists_route hmethod
  exact isInline_of_isLetter (hserver.methods route hroute)

/-- An answer is of a handler, or it is about an error. -/
lemma Decides.cases (hserver : server.IsProper)
    (hdata : ∀ answer, Handled server w raw answer → answer.data.IsReadable)
    (h : Decides server w raw (some (answer, headers)) w') :
    Message.AreOwn headers ∧ answer.data.IsKept ∧ (Handled server w raw answer ∨ IsError answer) := by
  have herror : ∀ status ∈ [400, 404, 405, 413, 431, 500], ∀ text : String,
      (errorAnswer status text).data.IsKept ∧
        (Handled server w raw (errorAnswer status text) ∨ IsError (errorAnswer status text)) := by
    intro status hstatus text
    exact ⟨Json.isKept_errorData (Text.hasSurrogate_ofString text), .inr ⟨status, hstatus, _, rfl⟩⟩
  cases h with
  | headTooLong _ | malformed _ | bodyTooLong _ => exact ⟨.nil, herror _ (by decide) _⟩
  | answered hread hanswers =>
    cases hanswers with
    | noRoute _ | crashed _ _ _ => exact ⟨.nil, herror _ (by decide) _⟩
    | notAllowed h => exact ⟨.allow (isInline_allowed hserver h), herror _ (by decide) _⟩
    | handled h hpayload hanswer =>
      have hhandled : Handled server w raw answer := ⟨hread, h, hpayload, hanswer⟩
      exact ⟨.nil, (hdata answer hhandled).isKept, .inl hhandled⟩

/-- **Every response is framed JSON**: where there is a response, it is the only one, and its bytes are
a head, the first terminator and a body that is JSON for the data of the answer, which a handler gave or
which is about an error. -/
theorem serve_framed (hserver : server.IsProper)
    (hdata : ∀ answer, Handled server w raw answer → answer.data.IsReadable) {message : Message}
    (hresponse : (server.serve w raw faults).1.response = some message) :
    (server.serve w raw faults).1.events.filterMap Event.message? = [message] ∧
      ∃ answer headers w' bytes head body, Decides server w raw (some (answer, headers)) w' ∧
        message.bytes? = some bytes ∧ Message.IsFramed bytes head body message.headers answer ∧
          (Handled server w raw answer ∨ IsError answer) := by
  have hread : faults.read = false := by
    by_contra h
    rw [serve_of_read (by simpa using h)] at hresponse
    cases hresponse
  obtain ⟨decision, w', hdecides⟩ := exists_decides server w raw
  obtain ⟨outcome, hdelivers⟩ := exists_delivers server decision
  rw [serve_of_decides hread hdecides hdelivers] at hresponse ⊢
  cases hdelivers with
  | silent => cases hresponse
  | unsendable _ => cases hresponse
  | @written answer headers _ =>
    obtain rfl := Option.some.inj hresponse
    obtain ⟨hheaders, hkept, horigin⟩ := hdecides.cases hserver hdata
    obtain ⟨bytes, head, body, hbytes, hframed⟩ :=
      Message.isFramed_ofAnswer hserver.name hserver.date hheaders hkept
    exact ⟨rfl, answer, headers, w', bytes, head, body, hdecides, hbytes, hframed, horigin⟩

/-- Surrogates that stand alone, in the wrong order, and a code point that is written as two. -/
theorem serve_framed_surrogates :
    let data : Json := .object [(Text.ofString "b", .string
      [⟨0xDC00, by decide⟩, ⟨0xD800, by decide⟩, ⟨0x1F600, by decide⟩]), (Text.ofString "a", .int 1)]
    let server : Server := {
      router := { routes := [⟨"GET", "/", fun w _ => (.ok ⟨299, data⟩, w)⟩] }
      maxBody := 10
      name := "courier"
      date := "today" }
    let raw := "GET / HTTP/1.1\r\n\r\n".toUTF8.toList
    let message := Message.ofAnswer "courier" "today" ⟨299, data⟩ []
    server.IsProper ∧ (∀ answer, Handled server {} raw answer → answer.data.IsReadable) ∧
      (server.serve {} raw { drain := true }).1.response = some message ∧
      ∃ answer headers w' bytes head body, Decides server {} raw (some (answer, headers)) w' ∧
        message.bytes? = some bytes ∧ Message.IsFramed bytes head body message.headers answer ∧
          (Handled server {} raw answer ∨ IsError answer) := by
  intro data server raw message
  have hreadable : data.IsReadable := by
    refine ⟨⟨.strict, data.write Json.spacedAscii, ?_⟩, by decide, ?_⟩
    · exact Json.read?_write Json.isJson_spacedAscii (Json.keeps_keepable _) (by decide) (by decide)
        (by decide)
    · exact Json.all_iff_forall_hasText.mp (by decide)
  have hserver : server.IsProper := by
    refine ⟨by decide, by decide, fun route hroute => ?_⟩
    rw [List.mem_singleton] at hroute
    rw [hroute]
    decide
  have hdata : ∀ answer, Handled server {} raw answer → answer.data.IsReadable := by
    rintro answer ⟨-, hfound, -, hanswer⟩
    cases hfound with
    | @found before after route hroutes _ _ _ =>
      have hroute : route ∈ server.router.routes := by simp [hroutes]
      rw [List.mem_singleton] at hroute
      subst hroute
      cases hanswer
      exact hreadable
  have hread : readRequest server.maxBody raw = .ok ⟨⟨"GET", "/", "HTTP/1.1", []⟩, []⟩ := by
    simp only [server, raw]
    decide +kernel
  have hdispatch : dispatch server.router {} ⟨⟨"GET", "/", "HTTP/1.1", []⟩, []⟩ =
      ((⟨299, data⟩, []), {}) := by
    simp only [server]
    cbv
  have hdecides := Decides.answered (readRequest_eq_iff.mp hread) (dispatch_eq_iff.mp hdispatch)
  have hsendable : Message.IsSendable server.name server.date [] := ⟨by decide, by decide, by simp⟩
  have hresponse : (server.serve {} raw { drain := true }).1.response = some message := by
    rw [serve_of_decides rfl hdecides (.written hsendable)]
    rfl
  exact ⟨hserver, hdata, hresponse, (serve_framed hserver hdata hresponse).2⟩

end

end Http

end Courier
