import Courier.Host.Label

/-!
Host names.

A host name consists of labels with dots between them, and may end with a dot. Each label has a
readable form and a form on the wire.
-/

namespace Courier

namespace HostName

/-- A dot between labels: the full stop, the ideographic one and the full and half width forms. -/
def isDot (c : CodePoint) : Bool :=
  c = '.' || c.toNat = 0x3002 || c.toNat = 0xFF0E || c.toNat = 0xFF61

/-- The labels of a name, and whether a dot ends it. -/
def labels (name : Text) : Except LabelFault (List Text × Bool) :=
  let parts := Text.splitWhere isDot name
  if Label.maxLength < name.length ∨ name.isEmpty then .error .malformed
  else if parts.getLast? = some [] then .ok (parts.dropLast, true)
  else .ok (parts, false)

/-- The name of labels. -/
def join (labels : List Text) (endsWithDot : Bool) : Text :=
  Text.join [CodePoint.ofChar '.'] (labels ++ if endsWithDot then [[]] else [])

/-- A name as it is on the wire, with a dot at its end within `Label.maxLength` and without one
below. -/
def write (name : Text) : Except LabelFault Text := do
  let (parts, endsWithDot) ← labels name
  let written := join (← parts.mapM Label.write) endsWithDot
  if written.length ≤ (if endsWithDot then Label.maxLength else Label.maxLength - 1) then
    return written
  else throw .malformed

/-- The readable form of a name on the wire. -/
def read (name : Text) : Except LabelFault Text := do
  let (parts, endsWithDot) ← labels name
  return join (← parts.mapM Label.read) endsWithDot

end HostName

end Courier
