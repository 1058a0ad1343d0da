import Courier.Http.Status
import Courier.Json.Writer
import Courier.Text.Latin1

/-!
Response messages.

Every response is a JSON document in ASCII, after a head that gives its length and closes the
connection.
-/

namespace Courier

namespace Http

/-- What a handler answers: a status and a document. -/
structure Answer where
  status : Int
  data : Json

/-- The document of every answer that reports an error. -/
def errorData (message : Text) : Json :=
  .object [(Text.ofString "error", .bool true), (Text.ofString "message", .string message)]

def errorAnswer (status : Int) (message : Text) : Answer := ⟨status, errorData message⟩

/-- A response as it is sent. -/
structure Message where
  statusLine : Text
  headers : List (Text × Text)
  body : Text
deriving DecidableEq

namespace Message

/-- The message of an answer, with headers of its own before the usual ones. -/
def ofAnswer (server date : Text) (answer : Answer) (headers : List (Text × Text)) : Message :=
  let body := answer.data.write Json.spacedAscii
  { statusLine :=
      Text.ofString "HTTP/1.1 " ++ Text.ofInt answer.status ++
        (CodePoint.ofChar ' ' :: reason answer.status)
    headers := headers ++ [
      (Text.ofString "Content-Type", Text.ofString "application/json; charset=utf-8"),
      (Text.ofString "Content-Length", Text.ofNat body.length),
      (Text.ofString "Date", date),
      (Text.ofString "Server", server),
      (Text.ofString "Connection", Text.ofString "close")]
    body }

/-- The end of a line of the head. -/
def lineEnd : Text := Text.ofString "\r\n"

/-- The lines before the body. -/
def head (m : Message) : Text :=
  m.statusLine ++ lineEnd ++
    m.headers.flatMap (fun field => field.1 ++ Text.ofString ": " ++ field.2 ++ lineEnd) ++ lineEnd

/-- The bytes of a message whose head is Latin-1. -/
def bytes? (m : Message) : Option (List UInt8) := do
  let head ← Latin1.encode? m.head
  let body ← Ascii.encode? m.body
  return head ++ body

end Message

end Http

end Courier
