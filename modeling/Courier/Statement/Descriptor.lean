import Courier.Json.Value
import Courier.Statement.Keyword

/-!
Request descriptors.

A descriptor is what a statement describes: a method, a URL, three objects and the URL with the
query added. It can also be built from named fields of any JSON values, which are checked one by
one; all problems are reported together, in the order of the fields' names.
-/

namespace Courier

/-- What is wrong with a field. -/
inductive Problem
  | missing
  /-- The value is none of the names that the field allows. -/
  | notAllowed
  | notString
  | tooShort
  /-- The text holds a surrogate. -/
  | notUnicode
  | notObject
  /-- The field is unknown. -/
  | unknown
  /-- The field cannot be changed. -/
  | frozen
deriving DecidableEq

namespace Problem

def name : Problem → String
  | .missing => "missing"
  | .notAllowed => "enum"
  | .notString => "string_type"
  | .tooShort => "string_too_short"
  | .notUnicode => "string_unicode"
  | .notObject => "dict_type"
  | .unknown => "extra_forbidden"
  | .frozen => "frozen_instance"

end Problem

/-- A field with what is wrong with it. -/
abbrev Report := Text × Problem

/-- A request, ready to be sent. -/
structure Descriptor where
  method : Method
  url : Text
  headers : Json.Object
  query : Json.Object
  body : Json.Object
  fullUrl : Text

namespace Descriptor

/-- The names of the fields. -/
def fieldNames : List Text :=
  ["method", "url", "headers", "query", "body", "full_url"].map Text.ofString

/-- What is wrong with a text as a URL. -/
def textProblem? (t : Text) : Option Problem :=
  if Text.hasSurrogate t then some .notUnicode
  else if t.isEmpty then some .tooShort
  else none

/-- The text of a field that must hold a URL. -/
def urlField (value : Option Json) : Except Problem Text :=
  match value with
  | none => .error .missing
  | some (.string t) =>
    match textProblem? t with
    | some problem => .error problem
    | none => .ok t
  | some _ => .error .notString

/-- The method that a field names. -/
def methodField (value : Option Json) : Except Problem Method :=
  match value with
  | none => .error .missing
  | some (.string t) =>
    match Method.ofName? t with
    | some method => .ok method
    | none => .error .notAllowed
  | some _ => .error .notAllowed

/-- The object of a field that may be left out. -/
def objectField (value : Option Json) : Except Problem Json.Object :=
  match value with
  | none => .ok []
  | some (.object members) => .ok members
  | some _ => .error .notObject

/-- The report of a field that is in order or not. -/
def report {α : Type} (name : String) : Except Problem α → List Report
  | .ok _ => []
  | .error problem => [(Text.ofString name, problem)]

/-- Reports in the order of the fields' names. -/
def sortReports (reports : List Report) : List Report :=
  reports.mergeSort fun a b => Text.le a.1 b.1

/-- The descriptor of fields whose names are texts, or all that is wrong with them. -/
def ofNamed (fields : Json.Object) : Except (List Report) Descriptor :=
  let value := fun name => Fields.get? fields (Text.ofString name)
  let method := methodField (value "method")
  let url := urlField (value "url")
  let headers := objectField (value "headers")
  let query := objectField (value "query")
  let body := objectField (value "body")
  let fullUrl := urlField (value "full_url")
  match method, url, headers, query, body, fullUrl,
    fields.filter fun field => !fieldNames.contains field.1 with
  | .ok method, .ok url, .ok headers, .ok query, .ok body, .ok fullUrl, [] =>
    .ok { method, url, headers, query, body, fullUrl }
  | _, _, _, _, _, _, others =>
    .error (sortReports (report "method" method ++ report "url" url ++ report "headers" headers ++
      report "query" query ++ report "body" body ++ report "full_url" fullUrl ++
      others.map fun field => (field.1, Problem.unknown)))

/-- The descriptor with the given fields, or all that is wrong with them. Where a name holds a
surrogate, that is all there is to report, and it belongs to no field. -/
def ofFields (fields : Json.Object) : Except (List Report) Descriptor :=
  if fields.any fun field => Text.hasSurrogate field.1 then .error [([], .notUnicode)]
  else ofNamed fields

/-- A descriptor whose URLs are in order, or what is wrong with them. -/
def check (d : Descriptor) : Except (List Report) Descriptor :=
  match textProblem? d.url, textProblem? d.fullUrl with
  | none, none => .ok d
  | url, fullUrl =>
    .error (sortReports ((url.map (Text.ofString "url", ·)).toList ++
      (fullUrl.map (Text.ofString "full_url", ·)).toList))

/-- What comes of assigning to a field: a descriptor never changes. -/
def assign (field : Text) : List Report := [(field, .frozen)]

/-- The document of a descriptor, with all its fields. -/
def toJson (d : Descriptor) : Json :=
  .object [
    (Text.ofString "method", .string d.method.name),
    (Text.ofString "url", .string d.url),
    (Text.ofString "headers", .object d.headers),
    (Text.ofString "query", .object d.query),
    (Text.ofString "body", .object d.body),
    (Text.ofString "full_url", .string d.fullUrl)]

end Descriptor

end Courier
