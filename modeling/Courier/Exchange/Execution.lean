import Courier.Exchange.Redirect
import Courier.Url.Query

/-!
Executing a request.

The client checks a request before it sends it: its URL, then its headers, then its body, and last
where it goes. It checks the response too. What fails then, and what fails on the way, becomes the
data of the outcome, with a status of zero; only errors that no client reports end the request.
-/

namespace Courier

/-- The outcome of a request, with the times in milliseconds between which it ran. -/
structure Execution where
  status : Int
  start : Int
  stop : Int
  data : Json

def Execution.duration (e : Execution) : Int := e.stop - e.start

namespace Client

/-- The settings of a client: how long it waits, in seconds, and whether it follows redirects. -/
structure Config where
  timeout : Option Binary64
  followRedirects : Bool
deriving DecidableEq

/-- The client of the program: a redirect is an answer like any other. -/
def create (timeout : Option Binary64) : Config := { timeout, followRedirects := false }

/-- The headers of a request. -/
def headers (d : Descriptor) : List (Text × Text) :=
  d.headers.map fun field => (field.1, field.2.toText)

/-- The body of a request: compact JSON for a POST, nothing for a GET. -/
def body (d : Descriptor) : Text :=
  match d.method with
  | .get => []
  | .post => (Json.object d.body).write Json.compact

/-- The URL to which a request is sent. One that does not tell where it leads by itself is reduced
to its path, which starts with one slash, and its query. -/
def url (t : Text) : Except UrlFault Url := do
  let u ← Url.parse t
  if u.isAbsolute then return u
  else
    let slash := CodePoint.ofChar '/'
    let path := slash :: u.path.dropWhile (· = slash)
    let u : Url := {
      scheme := [], user := [], host := [], port := none, path, query := u.query, fragment := none }
    u.checkParts
    return u

/-- Checks that the host of a request can be put into a header, unless the headers tell it. -/
def checkHost (headers : List (Text × Text)) (u : Url) : Except Stop Unit :=
  if u.host.isEmpty || (Content.header? headers "host").isSome then .ok ()
  else do
    let _ ← Redirect.readHost u
    Content.checkAscii u.place

/-- The schemes of the URLs to which requests can be sent. -/
def schemes : List String := ["http", "https", "ws", "wss"]

/-- Checks that requests can be sent to a URL. -/
def checkProtocol (u : Url) : Except Stop Unit :=
  if !u.isAbsolute then
    .error (.failure .unsupportedProtocol
      (Text.ofString "Request URL is missing an 'http://' or 'https://' protocol."))
  else if schemes.any fun name => Text.ofString name = u.scheme then .ok ()
  else
    .error (.failure .unsupportedProtocol
      (Text.ofString "Request URL has an unsupported protocol '" ++ u.scheme ++
        Text.ofString "://'."))

/-- Checks a request before it is sent, and gives the URL to which it is sent. -/
def check (d : Descriptor) : Except Stop Url := do
  let u ← Redirect.orFailure (url d.fullUrl)
  Content.checkHeaders (headers d)
  if d.method = .post ∧ (Json.object d.body).isFinite = false then throw (.crash .bodyNotFinite)
  checkHost (headers d) u
  checkProtocol u
  return u

/-- The status and the data of a response to a request. -/
def read (u : Url) (r : Response) : Except Stop (Int × Json) := do
  Content.checkHeaders r.headers
  let r ← r.decoded
  Redirect.check u r
  match r.data with
  | .ok data => return (r.status, data)
  | .error crash => throw (.crash crash)

/-- What comes of a reply to a request. -/
def answer (u : Url) : Reply → Except Stop (Int × Json)
  | .response response => read u response
  | .failure failure message => .error (.failure failure message)
  | .crash crash => .error (.crash crash)

/-- Sends a request and records the call. -/
def send (w : World) (d : Descriptor) : Except Stop (Int × Json) × World :=
  let call : Call := { method := d.method, url := d.fullUrl, headers := headers d, body := none }
  match check d with
  | .error stop => (.error stop, w.record call)
  | .ok u =>
    let (reply, w) := (w.record { call with body := some (body d) }).reply
    (answer u reply, w)

end Client

namespace Execution

/-- The line about a request that failed. -/
def failureLine (d : Descriptor) (failure : Failure) : Log.Line where
  level := .warning
  source := .execution
  message :=
    Text.ofString "upstream failed method=" ++ d.method.name ++ Text.ofString " url=" ++
      d.fullUrl ++ Text.ofString " error=" ++ Text.ofString failure.name

/-- The data that stands for a response when a request failed. -/
def failureData (failure : Failure) (message : Text) : Json :=
  .object [
    (Text.ofString "error", .bool true),
    (Text.ofString "message",
      .string (if message.isEmpty then Text.ofString failure.name else message))]

end Execution

/-- The outcome of a request that was sent after the time `start`: its status and its data, once the
clock was read again. -/
def Execution.finish (w : World) (start status : Int) (data : Json) :
    Except Crash Execution × World :=
  match w.tick with
  | (.error crash, w) => (.error crash, w)
  | (.ok stop, w) => (.ok { status, start, stop, data }, w)

/-- Executes a request and times it. -/
def execute (w : World) (d : Descriptor) : Except Crash Execution × World :=
  match w.tick with
  | (.error crash, w) => (.error crash, w)
  | (.ok start, w) =>
    match Client.send w d with
    | (.error (.crash crash), w) => (.error crash, w)
    | (.error (.failure failure message), w) =>
      Execution.finish (w.write (Execution.failureLine d failure)) start 0
        (Execution.failureData failure message)
    | (.ok (status, data), w) => Execution.finish w start status data

end Courier
