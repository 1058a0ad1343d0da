import Courier.Exchange.Redirect
import Mathlib.Tactic.Common

/-!
# Redirects that cannot be prepared

Preparing the request that would follow a redirect either gives nothing to report, or fails in a way
that becomes the outcome of the first request, or breaks that request off altogether. This file says
exactly when it does the last: when the readable form of a host is wanted that does not have one, and
when a bracket of a location has no counterpart.
-/

namespace Courier

/-! ## Steps that may break off -/

section

variable {ε α β : Type}

lemma bind_eq_ok_iff {x : Except ε α} {f : α → Except ε β} {b : β} :
    (x >>= f) = .ok b ↔ ∃ a, x = .ok a ∧ f a = .ok b := by
  cases x with
  | error e =>
    show Except.error e = _ ↔ _
    simp
  | ok a =>
    show f a = _ ↔ _
    simp

lemma exists_unit_iff {p : Unit → Prop} : (∃ a, p a) ↔ p () :=
  ⟨fun ⟨_, h⟩ => h, fun h => ⟨_, h⟩⟩

variable {x : Except Stop α} {f : α → Except Stop β} {crash : Crash}

end

namespace Content

end Content

namespace Redirect

/-- The readable hosts of two URLs are wanted, and that of the first one or else that of the second
one cannot be told. -/
inductive Unreadable (a b : Url) : LabelFault → Prop
  | first {fault : LabelFault} (h : a.readableHost = .error fault) : Unreadable a b fault
  | second {host : Text} {fault : LabelFault} (ha : a.readableHost = .ok host)
      (hb : b.readableHost = .error fault) : Unreadable a b fault

/-- The ways in which a redirect from a request to a location breaks the request off. -/
inductive Breaks (request : Url) (location : Text) : Crash → Prop
  /-- The location has a scheme, so its host is wanted. -/
  | location {l : Url} {fault : LabelFault} (hl : Url.parse location = .ok l) (hscheme : l.scheme ≠ [])
      (h : l.readableHost = .error fault) : Breaks request location (.host fault)
  /-- The location has a scheme and no host, so it is to have the host of the request. -/
  | borrowed {l : Url} {fault : LabelFault} (hl : Url.parse location = .ok l)
      (hscheme : l.scheme ≠ []) (hhost : l.readableHost = .ok [])
      (h : request.readableHost = .error fault) : Breaks request location (.host fault)
  /-- The location is relative, and a bracket in it or in the request has no counterpart. -/
  | brackets {l whole : Url} (hl : Url.parse location = .ok l) (hwhole : addHost request l = .ok whole)
      (hrelative : whole.isAbsolute = false)
      (h : Reference.resolve? request.toText whole.toText = none) :
      Breaks request location .brackets
  /-- The redirect keeps the scheme, so the hosts are compared. -/
  | sameScheme {place : Url} {fault : LabelFault} (hplace : target request location = .ok place)
      (hscheme : place.scheme = request.scheme) (h : Unreadable place request fault) :
      Breaks request location (.host fault)
  /-- The redirect leaves the scheme, so the hosts are compared for the headers. -/
  | otherScheme {place : Url} {fault : LabelFault} (hplace : target request location = .ok place)
      (hscheme : place.scheme ≠ request.scheme) (h : Unreadable request place fault) :
      Breaks request location (.host fault)

end Redirect

end Courier
