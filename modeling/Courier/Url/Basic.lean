import Courier.Host.Ip
import Courier.Host.Name
import Courier.Number.Integer
import Courier.Text.Quoted
import Courier.Text.Small
import Courier.Url.Percent

/-!
URLs.

A URL has a scheme, a user, a host, a port, a path, a query and a fragment, each of which may be
missing. Its parts are checked and brought into one form before it is used: the host must be a name
or an address, the port a number, and every part is escaped.
-/

namespace Courier

/-- A URL. -/
structure Url where
  /-- In small letters. -/
  scheme : Text
  user : Text
  /-- The host as it is on the wire; an IPv6 address has no brackets here. -/
  host : Text
  /-- The port, unless it is the usual one. -/
  port : Option Int
  path : Text
  query : Option Text
  fragment : Option Text
deriving DecidableEq

/-- The parts of a URL as they were given. -/
structure UrlParts where
  scheme : Text
  user : Text
  host : Text
  port : Text
  path : Text
  query : Option Text
  fragment : Option Text

/-- What is wrong with a URL, or with a part of it that is to be changed. -/
inductive UrlFault
  | tooLong (part : Option String)
  | unprintable (part : Option String) (c : CodePoint) (position : Nat)
  | ipv4 (host : Text)
  | ipv6 (host : Text)
  | host (host : Text)
  | port (port : Text)
  /-- There is a user, a host or a port, and the path does not start with a slash. -/
  | path
  /-- There is no scheme and no host, and the path starts with two slashes. -/
  | slashes
  /-- There is no scheme and no host, and the path starts with a colon. -/
  | colon
deriving DecidableEq

namespace UrlFault

def message : UrlFault → Text
  | .tooLong none => Text.ofString "URL too long"
  | .tooLong (some part) =>
    Text.ofString "URL component '" ++ Text.ofString part ++ Text.ofString "' too long"
  | .unprintable part c position =>
    let place := match part with
      | none => []
      | some part => CodePoint.ofChar ' ' :: Text.ofString part ++ Text.ofString " component"
    Text.ofString "Invalid non-printable ASCII character in URL" ++ place ++ Text.ofString ", " ++
      Text.quote [c] ++ Text.ofString " at position " ++ Text.ofNat position ++ Text.ofString "."
  | .ipv4 t => Text.ofString "Invalid IPv4 address: " ++ Text.quote t
  | .ipv6 t => Text.ofString "Invalid IPv6 address: " ++ Text.quote t
  | .host t => Text.ofString "Invalid IDNA hostname: " ++ Text.quote t
  | .port t => Text.ofString "Invalid port: " ++ Text.quote t
  | .path => Text.ofString "For absolute URLs, path must be empty or begin with '/'"
  | .slashes => Text.ofString "Relative URLs cannot have a path starting with '//'"
  | .colon => Text.ofString "Relative URLs cannot have a path starting with ':'"

end UrlFault

namespace Url

/-! ## The code points of the parts -/

/-- Whether a code point is visible ASCII and none of some marks. -/
def isPlain (others : String) (c : CodePoint) : Bool :=
  0x21 ≤ c.toNat && c.toNat ≤ 0x7E && !(Text.ofString others).contains c

/-- The code points that stand for themselves in a fragment. -/
def inFragment : CodePoint → Bool := isPlain "\"<>`"

/-- The code points that stand for themselves in a query. -/
def inQuery : CodePoint → Bool := isPlain "\"#<>"

/-- The code points that stand for themselves in a path. -/
def inPath : CodePoint → Bool := isPlain "\"#<>?`\x7b\x7d"

/-- The code points that stand for themselves in a user. -/
def inUser : CodePoint → Bool := isPlain "\"#<>?`\x7b\x7d/;=@[\\]^|"

/-- The code points that stand for themselves in a host. -/
def inHost : CodePoint → Bool := isPlain "#/:<>?@[]^"

/-- Whether a code point is an ASCII control. -/
def isControl (c : CodePoint) : Bool := c.toNat < 0x20 || c.toNat = 0x7F

/-- The most code points of a URL, and of a part that is to be changed. -/
def maxLength : Nat := 65536

/-- Checks a text that is to be a URL or a part of one. -/
def checkText (part : Option String) (t : Text) : Except UrlFault Unit :=
  if maxLength < t.length then .error (.tooLong part)
  else
    match t.findIdx? isControl with
    | some i => .error (.unprintable part (t[i]?.getD default) i)
    | none => .ok ()

/-! ## Hosts, ports and paths -/

def isBracketed (host : Text) : Bool :=
  host.head? = some (CodePoint.ofChar '[') && host.getLast? = some (CodePoint.ofChar ']')

/-- The host as it is on the wire. -/
def writeHost (host : Text) : Except UrlFault Text :=
  if host.isEmpty then .ok []
  else if Ip.looksLikeIpv4 host then
    if Ip.isIpv4 host then .ok host else .error (.ipv4 host)
  else if isBracketed host then
    if Ip.isIpv6 host.tail.dropLast then .ok host.tail.dropLast else .error (.ipv6 host)
  else if host.all CodePoint.isAscii then
    .ok (Percent.escape inHost (host.map CodePoint.lowerAscii))
  else
    match HostName.write host.lower with
    | .ok name => .ok name
    | .error _ => .error (.host host)

/-- The schemes with a usual port. -/
def usualPorts : List (String × Int) :=
  [("ftp", 21), ("http", 80), ("https", 443), ("ws", 80), ("wss", 443)]

/-- The usual port of a scheme. -/
def usualPort? (scheme : Text) : Option Int :=
  (usualPorts.find? fun entry => Text.ofString entry.1 = scheme).map (·.2)

/-- The port, unless there is none or it is the usual one of the scheme. -/
def readPort (scheme port : Text) : Except UrlFault (Option Int) :=
  if port.isEmpty then .ok none
  else
    match Text.toInt? port with
    | some n => .ok (if usualPort? scheme = some n then none else some n)
    | none => .error (.port port)

/-- Checks the path of a URL with or without a scheme, and with or without an authority, which is a
user, a host or a port. -/
def checkPath (hasScheme hasAuthority : Bool) (path : Text) : Except UrlFault Unit :=
  if hasAuthority then
    if path.isEmpty || path.head? = some (CodePoint.ofChar '/') then .ok () else .error .path
  else if hasScheme then .ok ()
  else if (Text.ofString "//").isPrefixOf path then .error .slashes
  else if (Text.ofString ":").isPrefixOf path then .error .colon
  else .ok ()

/-- The segments passed so far (latest first) after one more: one of a single dot is left out, and
one of two dots takes back the one before, unless that is the empty beginning. -/
def addSegment (passed : List Text) (segment : Text) : List Text :=
  if segment = Text.ofString "." then passed
  else if segment = Text.ofString ".." then if passed = [[]] then passed else passed.tail
  else segment :: passed

/-- A path without segments of one or two dots. -/
def withoutDots (path : Text) : Text :=
  Text.join [CodePoint.ofChar '/'] (((Text.splitOn '/' path).foldl addSegment []).reverse)

/-- The URL of parts. -/
def ofParts (p : UrlParts) : Except UrlFault Url := do
  let user := Percent.escape inUser p.user
  let host ← writeHost p.host
  let port ← readPort p.scheme p.port
  let hasScheme := !p.scheme.isEmpty
  let hasAuthority := !user.isEmpty || !host.isEmpty || port.isSome
  checkPath hasScheme hasAuthority p.path
  let path := if hasScheme || hasAuthority then withoutDots p.path else p.path
  return {
    scheme := p.scheme.map CodePoint.lowerAscii
    user
    host
    port
    path := Percent.escape inPath path
    query := p.query.map (Percent.escape inQuery)
    fragment := p.fragment.map (Percent.escape inFragment) }

/-! ## Views -/

/-- The host as it stands in a URL: an IPv6 address is put in brackets. -/
def bracketed (host : Text) : Text :=
  if host.contains (CodePoint.ofChar ':') then
    CodePoint.ofChar '[' :: host ++ [CodePoint.ofChar ']']
  else host

/-- The host and the port. -/
def place (u : Url) : Text :=
  bracketed u.host ++ match u.port with
    | some n => CodePoint.ofChar ':' :: Text.ofInt n
    | none => []

/-- The user, the host and the port. -/
def authority (u : Url) : Text :=
  (if u.user.isEmpty then [] else u.user ++ [CodePoint.ofChar '@']) ++ u.place

/-- A part with a mark before it, if it is not missing. -/
def marked (mark : Char) : Option Text → Text
  | some part => CodePoint.ofChar mark :: part
  | none => []

/-- The text of a URL. -/
def toText (u : Url) : Text :=
  (if u.scheme.isEmpty then [] else u.scheme ++ [CodePoint.ofChar ':']) ++
    (if u.authority.isEmpty then [] else Text.ofString "//" ++ u.authority) ++
    u.path ++ marked '?' u.query ++ marked '#' u.fragment

/-- Whether a URL tells where it leads by itself: it has a scheme and a host. -/
def isAbsolute (u : Url) : Bool := !u.scheme.isEmpty && !u.host.isEmpty

/-- The readable form of the host, where the first label needs one. -/
def readableHost (u : Url) : Except LabelFault Text :=
  if Label.mark.isPrefixOf u.host then HostName.read u.host else .ok u.host

/-- The fragment with its encoded bytes decoded. -/
def readableFragment (u : Url) : Text := Percent.decode (u.fragment.getD [])

/-! ## Changes -/

/-- The parts of a URL. -/
def parts (u : Url) : UrlParts where
  scheme := u.scheme
  user := u.user
  host := bracketed u.host
  port := (u.port.map Text.ofInt).getD []
  path := u.path
  query := u.query
  fragment := u.fragment

/-- Checks a part that may be missing. -/
def checkPart (name : String) : Option Text → Except UrlFault Unit
  | some part => checkText (some name) part
  | none => .ok ()

/-- Checks the parts of a URL that stay when others are changed. -/
def checkParts (u : Url) : Except UrlFault Unit := do
  checkPart "scheme" u.scheme
  checkPart "authority" u.authority
  checkPart "path" u.path
  checkPart "query" u.query
  checkPart "fragment" u.fragment

/-- The URL with another host. -/
def withHost (u : Url) (host : Text) : Except UrlFault Url := do
  u.checkParts
  let host := if isBracketed host then host else bracketed host
  checkText (some "host") host
  ofParts { u.parts with host }

/-- The URL with another fragment. -/
def withFragment (u : Url) (fragment : Text) : Except UrlFault Url := do
  checkParts { u with fragment := some fragment }
  ofParts { u.parts with fragment := some fragment }

end Url

end Courier
