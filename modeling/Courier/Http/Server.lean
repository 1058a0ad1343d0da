import Courier.Exchange.World
import Courier.Http.Head
import Courier.Http.Message
import Courier.Http.Router
import Courier.Json.Bytes

/-!
Serving connections.

Each connection carries one request: a head of limited length, and a body of the length that the
head declares. The body is read as JSON and given to the handler of the request's method and path.
Whatever happens, the connection is closed at the end, and at most one response is written to it.
-/

namespace Courier

namespace Http

/-- A handler answers a payload, or crashes. -/
abbrev Handler := World → Json → Except Crash Answer × World

/-- A server. -/
structure Server where
  router : Router Handler
  /-- The longest body of a request. -/
  maxBody : Nat
  /-- The name that the server gives in its responses. -/
  name : Text
  /-- The date that it gives there. -/
  date : Text

/-- What goes wrong with a connection, apart from what its bytes say. -/
structure Faults where
  /-- Reading fails because the connection was reset. -/
  read : Bool := false
  /-- The connection is reset while the response is being sent. -/
  drain : Bool := false
  /-- Closing the connection fails. -/
  close : Bool := false
deriving DecidableEq

/-- What the server does to a connection. -/
inductive Event
  | write (message : Message)
  | drain
  | close
  | waitClosed
deriving DecidableEq

def Event.name : Event → String
  | .write _ => "write"
  | .drain => "drain"
  | .close => "close"
  | .waitClosed => "wait_closed"

/-- The response that is written, if one is. -/
def Event.message? : Event → Option Message
  | .write message => some message
  | _ => none

/-- A request. -/
structure Request where
  head : Head
  body : List UInt8
deriving DecidableEq

/-- Why no request was read. -/
inductive Refusal
  /-- The bytes end before the request does; nobody is left to answer. -/
  | incomplete
  | headTooLong
  | malformed
  | bodyTooLong
deriving DecidableEq

/-- The greatest offset at which the head may end. -/
def maxHead : Nat := 65536

/-- The most digits of a declared length. -/
def maxLengthDigits : Nat := 4300

/-- The length of the body that a head declares. Only a plain length is understood. -/
def declaredLength (head : Head) : Except Refusal Nat :=
  if (head.headers.get? (Text.ofString "transfer-encoding")).isSome then .error .malformed
  else
    let digits := (head.headers.get? (Text.ofString "content-length")).getD (Text.ofString "0")
    if digits.isEmpty || !digits.all CodePoint.isDigit || maxLengthDigits < digits.length then
      .error .malformed
    else .ok (Text.digitsValue digits)

/-- The first request of a byte sequence. -/
def readRequest (maxBody : Nat) (raw : List UInt8) : Except Refusal Request :=
  match Head.cut? raw with
  | none => .error (if maxHead + 3 < raw.length then .headTooLong else .incomplete)
  | some (head, rest) =>
    if maxHead < head.length then .error .headTooLong
    else
      match Head.read head with
      | .error _ => .error .malformed
      | .ok head =>
        match declaredLength head with
        | .error refusal => .error refusal
        | .ok length =>
          if maxBody < length then .error .bodyTooLong
          else
            let body := rest.take length
            if body.length < length then .error .incomplete else .ok { head, body }

/-- The payload of a body: its JSON value, or null if it is empty or not JSON. -/
def payload (body : List UInt8) : Json :=
  if body.isEmpty then .null else (Json.ofBytes? body).getD .null

/-- The line about a handler that crashed. -/
def crashLine (head : Head) : Log.Line where
  level := .error
  source := .server
  message :=
    Text.ofString "handler failed method=" ++ head.method ++ Text.ofString " path=" ++ head.path

/-- The line about a client that did not wait for its response. -/
def goneLine : Log.Line where
  level := .info
  source := .server
  message := Text.ofString "client went away before the response was sent"

/-- The answer to a request, and the headers that belong to it. -/
def dispatch (router : Router Handler) (w : World) (request : Request) :
    (Answer × List (Text × Text)) × World :=
  match router.resolve request.head.method request.head.path with
  | .error (.noRoute _) => ((errorAnswer 404 (Text.ofString "Not Found"), []), w)
  | .error (.notAllowed allowed) =>
    ((errorAnswer 405 (Text.ofString "Method Not Allowed"),
      [(Text.ofString "Allow", (Router.Miss.notAllowed allowed).message)]), w)
  | .ok handler =>
    match handler w (payload request.body) with
    | (.ok answer, w) => ((answer, []), w)
    | (.error _, w) =>
      ((errorAnswer 500 (Text.ofString "Internal server error"), []),
        w.write (crashLine request.head))

/-- The answer to a refused request, if anybody is there to read it. -/
def Refusal.answer? : Refusal → Option Answer
  | .incomplete => none
  | .headTooLong => some (errorAnswer 431 (Text.ofString "Request Header Fields Too Large"))
  | .malformed => some (errorAnswer 400 (Text.ofString "Bad Request"))
  | .bodyTooLong => some (errorAnswer 413 (Text.ofString "Payload Too Large"))

/-! ## Connections -/

/-- What can be raised while a connection is served. -/
inductive Raised
  /-- No request was read. -/
  | refused (refusal : Refusal)
  /-- The connection was reset. -/
  | reset
  /-- The connection was not closed in order. -/
  | unclosed
  /-- The head of a response is not Latin-1. -/
  | notLatin1
deriving DecidableEq

/-- A connection that is being served: the world, and what was done to the connection so far. -/
structure Connection where
  world : World
  events : List Event := []

namespace Connection

def note (c : Connection) (event : Event) : Connection := { c with events := c.events ++ [event] }

def log (c : Connection) (line : Log.Line) : Connection := { c with world := c.world.write line }

/-- Waits until all that was written has been sent. -/
def drain (c : Connection) (faults : Faults) : Except Raised Unit × Connection :=
  (if faults.drain then .error .reset else .ok (), c.note .drain)

/-- Waits until the connection is closed. -/
def waitClosed (c : Connection) (faults : Faults) : Except Raised Unit × Connection :=
  (if faults.close then .error .unclosed else .ok (), c.note .waitClosed)

/-- Closes the connection. Whether that is done in order does not matter. -/
def shut (c : Connection) (faults : Faults) : Except Raised Unit × Connection :=
  match (c.note .close).waitClosed faults with
  | (.error .unclosed, c) => (.ok (), c)
  | ended => ended

end Connection

/-- What a connection came to. -/
structure Outcome where
  events : List Event
  /-- What was raised and not caught, if anything was. -/
  raised : Option Raised := none
deriving DecidableEq

/-- The response that was written, if one was. -/
def Outcome.response (outcome : Outcome) : Option Message := outcome.events.findSome? Event.message?

namespace Server

/-- Reads the request of a connection. -/
def receive (server : Server) (raw : List UInt8) (faults : Faults) : Except Raised Request :=
  if faults.read then .error .reset else (readRequest server.maxBody raw).mapError .refused

/-- Writes the response with an answer, and notes in the log if the client did not wait for it. -/
def respond (server : Server) (faults : Faults) (c : Connection) (answer : Answer)
    (headers : List (Text × Text)) : Except Raised Unit × Connection :=
  let message := Message.ofAnswer server.name server.date answer headers
  match message.bytes? with
  | none => (.error .notLatin1, c)
  | some _ =>
    match (c.note (.write message)).drain faults with
    | (.error .reset, c) => (.ok (), c.log goneLine)
    | sent => sent

/-- Reads the request of a connection and responds to it, or to what is wrong with it. -/
def process (server : Server) (raw : List UInt8) (faults : Faults) (c : Connection) :
    Except Raised Unit × Connection :=
  match server.receive raw faults with
  | .ok request =>
    let ((answer, headers), world) := dispatch server.router c.world request
    server.respond faults { c with world } answer headers
  | .error .reset => (.ok (), c)
  | .error (.refused refusal) =>
    match refusal.answer? with
    | none => (.ok (), c)
    | some answer => server.respond faults c answer []
  | .error raised => (.error raised, c)

/-- Processes a connection and closes it, whatever came of it. -/
def attend (server : Server) (raw : List UInt8) (faults : Faults) (c : Connection) :
    Except Raised Unit × Connection :=
  let (processed, c) := server.process raw faults c
  match c.shut faults with
  | (.ok (), c) => (processed, c)
  | (.error raised, c) => (.error raised, c)

/-- Serves a connection. -/
def serve (server : Server) (w : World) (raw : List UInt8) (faults : Faults) : Outcome × World :=
  match server.attend raw faults { world := w } with
  | (.ok (), c) => ({ events := c.events }, c.world)
  | (.error raised, c) => ({ events := c.events, raised }, c.world)

/-- Serves connections one after another. What each one does to the world is recorded with its
outcome. -/
def serveAll (server : Server) (w : World) :
    List (List UInt8 × Faults) → List (Outcome × World)
  | [] => []
  | (raw, faults) :: rest =>
    let (outcome, w) := server.serve w.forget raw faults
    (outcome, w) :: serveAll server w rest

end Server

end Http

end Courier
