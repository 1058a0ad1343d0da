import Courier.Url.Basic

/-!
Reading URLs.

Every text can be taken apart into the parts of a URL; whether they make a URL is then a matter of
the parts.
-/

namespace Courier

namespace UrlParts

/-- A code point of a scheme after its first letter. -/
def inScheme (c : CodePoint) : Bool :=
  c.isLetter || c.isDigit || c = '+' || c = '.' || c = '-'

/-- The scheme of a URL, possibly empty, and what follows its colon. A URL that does not start with
a scheme and a colon has an empty one. -/
def takeScheme (url : Text) : Text × Text :=
  let (name, rest) := url.span inScheme
  match rest with
  | c :: after =>
    if c = ':' ∧ (name.head?.all CodePoint.isLetter) = true then (name, after) else ([], url)
  | [] => ([], url)

/-- What stands between two slashes and the path, possibly nothing, and the path with all that
follows it. -/
def takeAuthority (t : Text) : Text × Text :=
  match Text.after? (Text.ofString "//") t with
  | some rest => rest.span fun (c : CodePoint) => !(c = '/' || c = '?' || c = '#')
  | none => ([], t)

/-- A text before a mark, and what follows the mark if it is there. -/
def cutAt (mark : Char) (t : Text) : Text × Option Text :=
  match Text.cut? mark t with
  | some (before, after) => (before, some after)
  | none => (t, none)

/-- A host in brackets, up to the last closing one, and what follows it. -/
def takeBracketed? (t : Text) : Option (Text × Text) := do
  let rest ← Text.after? [CodePoint.ofChar '['] t
  let (inside, after) ← Text.cutLast? ']' rest
  return (CodePoint.ofChar '[' :: inside ++ [CodePoint.ofChar ']'], after)

/-- The host and the port of an authority after its user; the port is what follows the host and a
colon, if there is one. -/
def takeHost (t : Text) : Text × Text :=
  let (host, rest) := (takeBracketed? t).getD
    (t.span fun (c : CodePoint) => !(c = ':' || c = '@'))
  (host, (Text.after? [CodePoint.ofChar ':'] rest).getD rest)

/-- The parts of a text. -/
def ofText (t : Text) : UrlParts :=
  let (scheme, t) := takeScheme t
  let (authority, t) := takeAuthority t
  let (user, place) := (Text.cutLast? '@' authority).getD ([], authority)
  let (host, port) := takeHost place
  let (t, fragment) := cutAt '#' t
  let (path, query) := cutAt '?' t
  { scheme, user, host, port, path, query, fragment }

end UrlParts

namespace Url

/-- The URL of a text. -/
def parse (t : Text) : Except UrlFault Url := do
  checkText none t
  ofParts (UrlParts.ofText t)

end Url

end Courier
