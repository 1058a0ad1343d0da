import Courier.Json.Reader
import Courier.Json.Writer
import Courier.Statement.Fault
import Courier.Text.Utf8

/-!
Decoding the sections that hold a JSON object.

The text of a section is strict JSON, its value an object, and what survives in the object, written
as JSON, must have a UTF-8 form, so that the object can be sent: no key and no string in it may hold
a surrogate.
-/

namespace Courier

namespace Section

/-- Whether the JSON text of an object has a UTF-8 form. -/
def hasUtf8 (members : Json.Object) : Bool :=
  (Utf8.encode? ((Json.object members).write Json.spaced)).isSome

/-- The object that the text of a section denotes. -/
def decode (sec : Section) (raw : Text) : Except Fault Json.Object :=
  match Json.read? .strict raw with
  | none => .error (.invalidSectionJson sec)
  | some (.object members) =>
    if hasUtf8 members then .ok members else .error (.invalidSectionJson sec)
  | some _ => .error (.sectionNotObject sec)

end Section

end Courier
