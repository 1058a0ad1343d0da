import Courier.Exchange.MediaType
import Courier.Host.Label
import Courier.Json.Value
import Courier.Log
import Courier.Statement.Descriptor

/-!
The world around an exchange.

Requests are sent to a remote server, which answers them one after another, and are timed by a
clock. Both are scripts here: a list of replies and a list of readings, the last of which repeats.
What the program does to the world, the calls of its client and the lines of its log, is
recorded.
-/

namespace Courier

/-- The failures of a client that are part of the outcome of a request. -/
inductive Failure
  | http
  | request
  | transport
  | timeout
  | connectTimeout
  | readTimeout
  | writeTimeout
  | poolTimeout
  | network
  | connect
  | read
  | write
  | close
  | proxy
  | unsupportedProtocol
  | protocol
  | localProtocol
  | remoteProtocol
  | decoding
  | tooManyRedirects
  | status
  | invalidUrl
  /-- A header is not ASCII. -/
  | encoding
deriving DecidableEq

namespace Failure

def all : List Failure :=
  [.http, .request, .transport, .timeout, .connectTimeout, .readTimeout, .writeTimeout,
    .poolTimeout, .network, .connect, .read, .write, .close, .proxy, .unsupportedProtocol,
    .protocol, .localProtocol, .remoteProtocol, .decoding, .tooManyRedirects, .status,
    .invalidUrl, .encoding]

/-- The name of a failure: it is logged, and stands for an empty message. -/
def name : Failure → String
  | .http => "HTTPError"
  | .request => "RequestError"
  | .transport => "TransportError"
  | .timeout => "TimeoutException"
  | .connectTimeout => "ConnectTimeout"
  | .readTimeout => "ReadTimeout"
  | .writeTimeout => "WriteTimeout"
  | .poolTimeout => "PoolTimeout"
  | .network => "NetworkError"
  | .connect => "ConnectError"
  | .read => "ReadError"
  | .write => "WriteError"
  | .close => "CloseError"
  | .proxy => "ProxyError"
  | .unsupportedProtocol => "UnsupportedProtocol"
  | .protocol => "ProtocolError"
  | .localProtocol => "LocalProtocolError"
  | .remoteProtocol => "RemoteProtocolError"
  | .decoding => "DecodingError"
  | .tooManyRedirects => "TooManyRedirects"
  | .status => "HTTPStatusError"
  | .invalidUrl => "InvalidURL"
  | .encoding => "UnicodeEncodeError"

/-- The failure of a name. -/
def ofName? (token : String) : Option Failure := all.find? (·.name = token)

end Failure

/-- The errors that end a request without an outcome. -/
inductive Crash
  /-- The transport broke down in a way that no client reports; the name is that of the error. -/
  | transport (name : Text)
  /-- The transport refused a value, and says why. -/
  | refused (message : Text)
  /-- A time is infinite in milliseconds. -/
  | timeInfinite
  /-- A time is not a number. -/
  | timeNaN
  /-- The body holds a number that is not finite. -/
  | bodyNotFinite
  /-- The readable form of a host cannot be told. -/
  | host (fault : LabelFault)
  /-- A bracket in the place of a redirect has no counterpart. -/
  | brackets
  /-- The character set of a response cannot be told. -/
  | charset (fault : MediaType.CharsetFault)
  /-- The outcome is nested too deeply for a document. -/
  | tooDeep
  /-- The outcome has a key that holds a surrogate. -/
  | unencodableKey
  /-- The statement describes a request that cannot be sent. -/
  | invalid (reports : List Report)
deriving DecidableEq

/-- Why a request has no response. -/
inductive Stop
  | failure (failure : Failure) (message : Text)
  | crash (crash : Crash)
deriving DecidableEq

/-- A response of the remote server. -/
structure Response where
  status : Int := 200
  headers : List (Text × Text) := []
  body : List UInt8 := []
deriving DecidableEq

/-- What a request that reaches the remote server meets. -/
inductive Reply
  | response (response : Response)
  | failure (failure : Failure) (message : Text)
  | crash (crash : Crash)
deriving DecidableEq

/-- A call of the client: what was to be sent, and the body that reached the server, if the
request got that far. -/
structure Call where
  method : Method
  url : Text
  headers : List (Text × Text)
  body : Option Text
deriving DecidableEq

/-- The world. -/
structure World where
  /-- The replies of the remote server; the last one repeats. -/
  replies : List Reply := []
  /-- The readings of the clock in seconds; the last one repeats. -/
  clock : List Binary64 := []
  /-- The calls of the client, in order. -/
  sent : List Call := []
  /-- The lines of the log, in order. -/
  log : List Log.Line := []

namespace World

/-- The first entry of a script and what is left of it. -/
def next {α : Type} (usual : α) : List α → α × List α
  | [] => (usual, [])
  | [last] => (last, [last])
  | first :: rest => (first, rest)

/-- A time in milliseconds, cut to a whole number. -/
def milliseconds (seconds : Binary64) : Except Crash Int :=
  match seconds.scale 1000 with
  | .infinite _ => .error .timeInfinite
  | .nan => .error .timeNaN
  | time => .ok time.truncate

/-- Reads the clock in milliseconds. -/
def tick (w : World) : Except Crash Int × World :=
  let (seconds, clock) := next .zero w.clock
  (milliseconds seconds, { w with clock })

/-- The reply to one more request. -/
def reply (w : World) : Reply × World :=
  let (reply, replies) := next (.response {}) w.replies
  (reply, { w with replies })

def record (w : World) (call : Call) : World := { w with sent := w.sent ++ [call] }

def write (w : World) (line : Log.Line) : World := { w with log := w.log ++ [line] }

/-- The same world with nothing recorded yet. -/
def forget (w : World) : World := { w with sent := [], log := [] }

end World

end Courier
