import Courier.Exchange.Content
import Courier.Url.Reader
import Courier.Url.Reference

/-!
Redirects.

A redirect is an answer like any other, but the request that would follow it is prepared: where it
leads is found out from the request and the response, and compared with where the request went. What
fails on the way takes the place of the response.
-/

namespace Courier

namespace Redirect

/-- The statuses of a response that leads elsewhere. -/
def statuses : List Int := [301, 302, 303, 307, 308]

/-- A URL, or the failure that it stands for. -/
def orFailure (result : Except UrlFault Url) : Except Stop Url :=
  result.mapError fun fault => .failure .invalidUrl fault.message

/-- The readable host of a URL, which must have one. -/
def readHost (u : Url) : Except Stop Text :=
  u.readableHost.mapError fun fault => .crash (.host fault)

/-- The URL of a location. -/
def readLocation (location : Text) : Except Stop Url :=
  (Url.parse location).mapError fun fault =>
    .failure .remoteProtocol
      (Text.ofString "Invalid URL in location header: " ++ fault.message ++ Text.ofString ".")

/-- A location with a scheme but no host has the host of the request. -/
def addHost (request location : Url) : Except Stop Url :=
  if location.scheme.isEmpty then .ok location
  else do
    let host ← readHost location
    if host.isEmpty then orFailure (location.withHost (← readHost request)) else return location

/-- Where a location leads from the request. -/
def join (request location : Url) : Except Stop Url :=
  if location.isAbsolute then .ok location
  else
    match Reference.resolve? request.toText location.toText with
    | some found => orFailure (Url.parse found)
    | none => .error (.crash .brackets)

/-- A place without a fragment has the fragment of the request. -/
def addFragment (request place : Url) : Except Stop Url :=
  let fragment := request.readableFragment
  if !fragment.isEmpty && place.readableFragment.isEmpty then
    orFailure (place.withFragment fragment)
  else .ok place

/-- Where a redirect leads. -/
def target (request : Url) (location : Text) : Except Stop Url := do
  let location ← readLocation location
  let location ← addHost request location
  let place ← join request location
  addFragment request place

/-- The port of a URL of the web. -/
def portOf (u : Url) : Option Int := u.port.or (Url.usualPort? u.scheme)

/-- Whether two URLs have one scheme, host and port. -/
def isSameOrigin (a b : Url) : Except Stop Bool :=
  if a.scheme = b.scheme then do
    let host ← readHost a
    let other ← readHost b
    return host = other && portOf a = portOf b
  else return false

/-- Prepares the request that would follow. Where it leaves its origin the hosts are compared once
more, and the place is written into a header. -/
def prepare (request : Url) (location : Text) : Except Stop Unit := do
  let place ← target request location
  if ← isSameOrigin place request then return ()
  else
    let _ ← readHost request
    let _ ← readHost place
    Content.checkAscii place.place

/-- Checks a response to a request. -/
def check (request : Url) (r : Response) : Except Stop Unit :=
  if statuses.contains r.status then
    match Content.header? r.headers "location" with
    | some location => prepare request location
    | none => .ok ()
  else .ok ()

end Redirect

end Courier
