import Courier.Statement.Section
import Courier.Statement.Descriptor
import Courier.Statement.Segment
import Courier.Text.Capital
import Courier.Url.Query

/-!
Statements as descriptors.

The first segment of a statement gives the method and the second one the URL; sections with JSON
objects may follow in any order, each at most once. The segments are taken up from left to right,
so the fault of a statement is that of its leftmost faulty segment.
-/

namespace Courier

namespace Statement

/-- Why a statement is refused. -/
inductive Rejection
  | fault (fault : Fault)
  /-- The statement is well formed, but its URL is not a text that can be sent. -/
  | invalid (reports : List Report)
deriving DecidableEq

/-- What the segments taken up so far say. -/
structure Draft where
  seen : List Keyword := []
  method : Option Method := none
  url : Text := []
  headers : Json.Object := []
  query : Json.Object := []
  body : Json.Object := []

/-- The method that a value names. -/
def readMethod (value : Text) : Except Fault Method :=
  if value ≠ Text.upper value then .error .nonUppercaseMethod
  else
    match Method.ofName? value with
    | some method => .ok method
    | none => .error .unsupportedMethod

namespace Draft

/-- The draft with the object of a section. -/
def setSection (draft : Draft) (sec : Section) (object : Json.Object) : Draft :=
  match sec with
  | .headers => { draft with headers := object }
  | .query => { draft with query := object }
  | .body => { draft with body := object }

/-- The draft with the value of a keyword. -/
def set (draft : Draft) (keyword : Keyword) (value : Text) : Except Fault Draft :=
  match keyword with
  | .http => (readMethod value).map fun method => { draft with method := some method }
  | .url => .ok { draft with url := value }
  | .json sec => (sec.decode value).map (draft.setSection sec)

/-- The draft with one more segment. -/
def add (draft : Draft) (segment : Text) : Except Fault Draft := do
  let (keyword, value) ← Segment.extract segment
  if keyword ∈ draft.seen then throw (.duplicateSection keyword)
  { draft with seen := keyword :: draft.seen }.set keyword value

/-- The draft with more segments, from left to right. -/
def addAll (draft : Draft) : List Text → Except Fault Draft
  | [] => .ok draft
  | segment :: segments => do
    let draft ← draft.add segment
    draft.addAll segments

/-- The descriptor of a finished draft. -/
def finish (draft : Draft) : Except Fault Descriptor := do
  let some method := draft.method | throw .missingHttpKeyword
  let fullUrl ← Query.addTo draft.url draft.query
  return {
    method
    url := draft.url
    headers := draft.headers
    query := draft.query
    body := draft.body
    fullUrl }

end Draft

/-- Whether the first two segments start with the names of the method's and the URL's keyword. -/
def checkOrder (segments : List Text) : Except Fault Unit :=
  match segments with
  | [] => .error .missingHttpKeyword
  | first :: others =>
    if Keyword.http.name.isPrefixOf first then
      match others with
      | [] => .error .missingUrlKeyword
      | second :: _ =>
        if Keyword.url.name.isPrefixOf second then .ok () else .error .missingUrlKeyword
    else .error .missingHttpKeyword

/-- The descriptor of a statement, before its URLs are checked. -/
def read (statement : Text) : Except Fault Descriptor := do
  let segments ← Segment.split statement
  checkOrder segments
  let draft ← ({} : Draft).addAll segments
  draft.finish

/-- The descriptor of a statement; `none` stands for an input that is not a text. -/
def parse (statement : Option Text) : Except Rejection Descriptor :=
  match statement with
  | none => .error (.fault .invalidInput)
  | some statement =>
    match read statement with
    | .error fault => .error (.fault fault)
    | .ok d =>
      match d.check with
      | .error reports => .error (.invalid reports)
      | .ok d => .ok d

end Statement

end Courier
