import Courier.Http.Server
import Courier.Service.Document
import Courier.Statement

/-!
The handler of the service.

The payload of a request holds a statement. One that is refused is answered with the message of its
fault, any other with the document of the request that it describes and its outcome.
-/

namespace Courier

namespace Service

open Http

/-- The statement in a payload: the text under the key of statements in an object. -/
def statement? : Json → Option Text
  | .object members =>
    match Fields.get? members (Text.ofString "reqline") with
    | some (.string t) => some t
    | _ => none
  | _ => none

/-- The line about a statement that was refused. -/
def rejectedLine (fault : Fault) : Log.Line where
  level := .info
  source := .handlers
  message :=
    Text.ofString "rejected reason=" ++ Text.ofString fault.kind.name ++
      Text.ofString " latency_ms=0"

/-- The line about a statement that was executed. -/
def handledLine (d : Descriptor) (e : Execution) : Log.Line where
  level := .info
  source := .handlers
  message :=
    Text.ofString "handled method=" ++ d.method.name ++ Text.ofString " http_status=" ++
      Text.ofInt e.status ++ Text.ofString " upstream_ms=" ++ Text.ofInt e.duration ++
      Text.ofString " latency_ms=0"

/-- Answers a payload. -/
def handle : Handler := fun w payload =>
  match Statement.parse (statement? payload) with
  | .error (.fault fault) =>
    (.ok (errorAnswer 400 fault.message), w.write (rejectedLine fault))
  | .error (.invalid reports) => (.error (.invalid reports), w)
  | .ok d =>
    match execute w d with
    | (.error crash, w) => (.error crash, w)
    | (.ok e, w) => ((Document.result d e).map fun data => ⟨200, data⟩, w.write (handledLine d e))

/-- The routes of the service. -/
def router : Router Handler :=
  { routes := [{ method := Method.post.name, path := Text.ofString "/", handler := handle }] }

end Service

end Courier
