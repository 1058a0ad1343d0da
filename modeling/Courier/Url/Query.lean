import Courier.Json.Writer
import Courier.Statement.Fault
import Courier.Url.Percent

/-!
Query strings and full URLs.

A query object becomes a list of `key=value` pairs in which both halves are percent encoded, and
is added to a URL after a question mark, or after an ampersand if the URL has a question mark.
-/

namespace Courier

namespace Json

/-- The text of a value where plain text is wanted: in a query string and in a header. Strings are
taken as they are, numbers that are integers are written as integers, and arrays and objects as
compact JSON. -/
def toText : Json → Text
  | .string s => s
  | .float x =>
    match x.toInt? with
    | some n => Text.ofInt n
    | none => x.write Binary64.plainWords
  | v => v.write compact

end Json

namespace Query

/-- The `key=value` form of a member. -/
def pair? (member : Text × Json) : Option Text := do
  let key ← Percent.encode? member.1
  let value ← Percent.encode? member.2.toText
  return key ++ (CodePoint.ofChar '=' :: value)

/-- The query string of an object, in the order of its members. -/
def encode (query : Json.Object) : Except Fault Text :=
  match query.mapM pair? with
  | some pairs => .ok (Text.join [CodePoint.ofChar '&'] pairs)
  | none => .error (.invalidSectionJson .query)

/-- The URL with a query string added. An empty one changes nothing. -/
def append (url query : Text) : Text :=
  if query.isEmpty then url
  else if url.contains (CodePoint.ofChar '?') then url ++ (CodePoint.ofChar '&' :: query)
  else url ++ (CodePoint.ofChar '?' :: query)

/-- The URL with a query object added. -/
def addTo (url : Text) (query : Json.Object) : Except Fault Text :=
  (encode query).map (append url)

end Query

end Courier
