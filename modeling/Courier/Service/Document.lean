import Courier.Exchange.Execution
import Courier.Statement.Descriptor

/-!
Result documents.

A request that was executed is reported together with its outcome. Documents hold finite numbers
only, have keys that can be encoded, and are nested to a limited depth.
-/

namespace Courier

namespace Document

/-- The deepest nesting of a document. -/
def maxDepth : Nat := 250

/-- A value as it stands in a document: with null in place of every number that is not finite. -/
def dump (v : Json) : Except Crash Json :=
  if maxDepth < v.depth then .error .tooDeep
  else if v.hasEncodableKeys then .ok v.withoutInfinities
  else .error .unencodableKey

/-- The summary of a request. -/
def request (d : Descriptor) : Json :=
  .object [
    (Text.ofString "query", .object d.query),
    (Text.ofString "body", .object d.body),
    (Text.ofString "headers", .object d.headers),
    (Text.ofString "full_url", .string d.fullUrl)]

/-- The summary of an outcome. -/
def response (e : Execution) : Json :=
  .object [
    (Text.ofString "http_status", .int e.status),
    (Text.ofString "duration", .int e.duration),
    (Text.ofString "request_start_timestamp", .int e.start),
    (Text.ofString "request_stop_timestamp", .int e.stop),
    (Text.ofString "response_data", e.data)]

/-- The document of a request with its outcome. -/
def result (d : Descriptor) (e : Execution) : Except Crash Json :=
  dump (.object [(Text.ofString "request", request d), (Text.ofString "response", response e)])

/-- The document of a request alone. -/
def descriptor (d : Descriptor) : Except Crash Json := dump d.toJson

end Document

end Courier
