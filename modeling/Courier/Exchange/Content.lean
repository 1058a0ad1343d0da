import Courier.Coding.Container
import Courier.Exchange.World
import Courier.Json.Bytes

/-!
The content of a response.

The body of a response may be compressed. Its data is the content as JSON if it is that, and
otherwise as text in the character set that the response declares.
-/

namespace Courier

namespace Content

/-- The values of the headers of a name, in order. -/
def values (headers : List (Text × Text)) (name : String) : List Text :=
  (headers.filter fun field => field.1.map CodePoint.lowerAscii = Text.ofString name).map (·.2)

/-- The values of a header, in one text. -/
def header? (headers : List (Text × Text)) (name : String) : Option Text :=
  match values headers name with
  | [] => none
  | values => some (Text.join (Text.ofString ", ") values)

/-- The message about the first run of code points outside ASCII in a text, if there is one. -/
def asciiProblem? (t : Text) : Option Text :=
  match t.findIdx? (!CodePoint.isAscii ·) with
  | none => none
  | some i =>
    let wide := (t.drop i).takeWhile (!CodePoint.isAscii ·)
    let place := match wide with
      | [c] =>
        Text.ofString " character '" ++ c.numericEscape ++ Text.ofString "' in position " ++
          Text.ofNat i
      | _ =>
        Text.ofString " characters in position " ++ Text.ofNat i ++
          (CodePoint.ofChar '-' :: Text.ofNat (i + wide.length - 1))
    some (Text.ofString "'ascii' codec can't encode" ++ place ++
      Text.ofString ": ordinal not in range(128)")

/-- Checks that a text is ASCII. -/
def checkAscii (t : Text) : Except Stop Unit :=
  match asciiProblem? t with
  | some message => .error (.failure .encoding message)
  | none => .ok ()

/-- Checks that headers are ASCII; a name comes before its value. -/
def checkHeaders (headers : List (Text × Text)) : Except Stop Unit :=
  headers.forM fun field => do
    checkAscii field.1
    checkAscii field.2

/-- The coding of a name; others leave a body as it is. -/
def coding? (name : Text) : Option Coding :=
  let name := (Text.strip CodePoint.isBlank name).map CodePoint.lowerAscii
  if name = Text.ofString "gzip" then some .gzip
  else if name = Text.ofString "deflate" then some .deflate
  else none

end Content

namespace Response

/-- The codings of the body, in the order in which they were applied. -/
def codings (r : Response) : List Coding :=
  (Content.values r.headers "content-encoding").flatMap fun value =>
    (Text.splitOn ',' value).filterMap Content.coding?

/-- The response with its body decoded. -/
def decoded (r : Response) : Except Stop Response :=
  match Coding.decodeAll r.codings r.body with
  | .ok body => .ok { r with body }
  | .error fault =>
    .error (.failure .decoding
      (Text.ofString "Error -3 while decompressing data: " ++ Text.ofString fault.message))

/-- The character set of a response. -/
def charset (r : Response) : Except MediaType.CharsetFault Charset :=
  match Content.header? r.headers "content-type" with
  | some value => (MediaType.charset? value).map (·.getD .utf8)
  | none => .ok .utf8

/-- The data of a response. -/
def data (r : Response) : Except Crash Json :=
  if r.body.isEmpty then .ok .null
  else
    match Json.ofBytes? r.body with
    | some v => .ok v
    | none =>
      match r.charset with
      | .ok charset => .ok (.string (charset.decode r.body))
      | .error fault => .error (.charset fault)

end Response

end Courier
