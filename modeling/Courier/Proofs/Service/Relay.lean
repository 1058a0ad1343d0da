import Courier.Proofs.Http.Connection
import Courier.Proofs.Json.Bytes
import Courier.Proofs.Json.Pairs
import Courier.Proofs.Service.Regular

/-!
# Relayed responses

The body of a response goes through three forms on its way to the client of the service: it is read as
JSON, or else as text, it becomes a part of a document, and the document is written in ASCII. Nothing
is lost of it. A JSON text may be spelled in any way, but what it denotes is in the answer, with the
keys of objects in their order and with surrogates that stand alone; and any other text is there as it
is.
-/

namespace Courier

/-! ## Responses -/

namespace Utf8

lemma encode?_eq_some_iff {t : Text} {bytes : List UInt8} :
    encode? t = some bytes ↔ Text.hasSurrogate t = false ∧ bytes = encode t := by
  unfold encode?
  cases Text.hasSurrogate t <;> simp [@eq_comm _ bytes]

end Utf8

namespace Response

/-- A response of which the body is not compressed and which leads nowhere else. What headers there
are can be sent, and the status can be printed, as all those of HTTP can. -/
structure IsDirect (r : Response) : Prop where
  ascii : Content.AreAscii r.headers
  encoding : Content.values r.headers "content-encoding" = []
  location : Content.values r.headers "location" = []
  status : r.status.natAbs < 10 ^ Json.maxDigits

/-- That no character set is declared for the body. -/
def IsPlain (r : Response) : Prop :=
  ∀ value, Content.header? r.headers "content-type" = some value →
    MediaType.charset? value = .ok none

variable {r : Response} {text : Text}

lemma IsDirect.check_eq (h : r.IsDirect) (u : Url) : Redirect.check u r = .ok () := by
  have hlocation : Content.header? r.headers "location" = none := by
    rw [Content.header?, h.location]
  rw [Redirect.check, hlocation]
  exact ite_self _

end Response

/-! ## Documents -/

namespace Document

variable {w : World} {statement : Text} {d : Descriptor} {e : Execution}

end Document

/-! ## From the remote server to the client -/

namespace Service

open Http

/-- That bytes are a request that posts a statement to the only path. -/
inductive Posts (maxBody : Nat) (raw : List UInt8) (statement : Text) : Prop
  | mk {request : Request} (hread : Reads maxBody raw (.ok request))
      (hmethod : Text.upper request.head.method = Method.post.name)
      (hpath : request.head.path = Text.ofString "/")
      (hstatement : statement? (payload request.body) = some statement)

/-- That a statement is accepted and that the request that it describes fits into a document as it
is. -/
structure Fits (statement : Text) (d : Descriptor) : Prop where
  accepted : Statement.parse (some statement) = .ok d
  finite : ∀ sec, (Json.object (d.object sec)).isFinite = true
  flat : ∀ sec, (Json.object (d.object sec)).depth ≤ Document.maxPartDepth

/-- That the response to a connection is a document of the request, with a status and data of the
outcome. -/
def Relays (server : Server) (w : World) (raw : List UInt8) (d : Descriptor) (status : Int)
    (data : Json) : Prop :=
  ∃ (message : Message) (e : Execution), (server.serve w raw {}).1.response = some message ∧
    message.statusLine = Text.ofString "HTTP/1.1 200 OK" ∧
    Json.read? .strict message.body = some (Document.whole d e) ∧ e.status = status ∧ e.data = data

section

variable {server : Server} {w : World} {raw : List UInt8} {statement : Text} {d : Descriptor}
  {r : Response}

lemma Relays.unique {status status' : Int} {data data' : Json}
    (h : Relays server w raw d status data) (h' : Relays server w raw d status' data') :
    data = data' := by
  obtain ⟨message, e, hresponse, -, hread, -, rfl⟩ := h
  obtain ⟨message', e', hresponse', -, hread', -, rfl⟩ := h'
  obtain rfl : message = message' := Option.some.inj (hresponse.symm.trans hresponse')
  have hwhole := Option.some.inj (hread.symm.trans hread')
  simp only [Document.whole, Document.response, Json.object.injEq, List.cons.injEq, Prod.mk.injEq,
    and_true, true_and] at hwhole
  exact hwhole.2.2.2.2

lemma posts_get : Posts 1048576
    ("POST / HTTP/1.1\r\nContent-Length: 38\r\n\r\n" ++
      "\x7b\"reqline\":\"HTTP GET | URL http://a/\"\x7d").toUTF8.toList
    (Text.ofString "HTTP GET | URL http://a/") := by
  have hread : readRequest 1048576
      ("POST / HTTP/1.1\r\nContent-Length: 38\r\n\r\n" ++
        "\x7b\"reqline\":\"HTTP GET | URL http://a/\"\x7d").toUTF8.toList =
      .ok ⟨⟨"POST", "/", "HTTP/1.1", [(Text.ofString "content-length", "38")]⟩,
        "\x7b\"reqline\":\"HTTP GET | URL http://a/\"\x7d".toUTF8.toList⟩ := by
    decide +kernel
  exact ⟨readRequest_eq_iff.mp hread, by cbv, rfl, by cbv⟩

lemma fits_get : Fits (Text.ofString "HTTP GET | URL http://a/")
    ⟨.get, "http://a/", [], [], [], "http://a/"⟩ := by
  have hparse : Statement.parse (some (Text.ofString "HTTP GET | URL http://a/")) =
      .ok ⟨.get, "http://a/", [], [], [], "http://a/"⟩ := by
    cbv
  refine ⟨hparse, ?_, ?_⟩
  · rintro (_ | _ | _) <;> decide
  · rintro (_ | _ | _) <;> decide

end

end Service

end Courier
