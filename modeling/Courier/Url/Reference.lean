import Courier.Text.CodePoint

/-!
References.

A reference tells where it leads from the place of another one, its base. Both are taken apart in a
way of their own here: what is missing is empty, and the last segment of a path may have parameters.
-/

namespace Courier

/-- A reference. -/
structure Reference where
  scheme : Text
  authority : Text
  path : Text
  parameters : Text
  query : Text
  fragment : Text

namespace Reference

/-- The schemes from whose URLs references lead on. -/
def bases : List String := ["http", "https", "ws", "wss"]

/-- Those of them whose paths may have parameters. -/
def withParameters : List String := ["http", "https"]

/-- Whether a scheme is one of those listed. -/
def isListed (schemes : List String) (scheme : Text) : Bool :=
  schemes.any fun name => Text.ofString name = scheme

/-- A code point of a scheme. -/
def inScheme (c : CodePoint) : Bool :=
  c.isLetter || c.isDigit || c = '+' || c = '-' || c = '.'

/-- The scheme of a reference, or the usual one, and what follows. -/
def takeScheme (usual t : Text) : Text × Text :=
  match Text.cut? ':' t with
  | some (name, rest) =>
    if (name.head?.any CodePoint.isLetter && name.all inScheme) = true then
      (name.map CodePoint.lowerAscii, rest)
    else (usual, t)
  | none => (usual, t)

/-- The authority of a reference, possibly empty, and what follows. A bracket in it must have a
counterpart. -/
def takeAuthority? (t : Text) : Option (Text × Text) :=
  match Text.after? (Text.ofString "//") t with
  | none => some ([], t)
  | some rest =>
    let (authority, rest) := rest.span fun (c : CodePoint) => !(c = '/' || c = '?' || c = '#')
    if authority.contains (CodePoint.ofChar '[') = authority.contains (CodePoint.ofChar ']') then
      some (authority, rest)
    else none

/-- A path and the parameters of its last segment. -/
def takeParameters (path : Text) : Text × Text :=
  let (before, last) := match Text.cutLast? '/' path with
    | some (before, last) => (before ++ [CodePoint.ofChar '/'], last)
    | none => ([], path)
  match Text.cut? ';' last with
  | some (name, parameters) => (before ++ name, parameters)
  | none => (path, [])

/-- The reference of a text, with a usual scheme; there is none if a bracket of its authority has no
counterpart. -/
def ofText? (usual t : Text) : Option Reference := do
  let (scheme, t) := takeScheme usual t
  let (authority, t) ← takeAuthority? t
  let (t, fragment) := (Text.cut? '#' t).getD (t, [])
  let (t, query) := (Text.cut? '?' t).getD (t, [])
  let (path, parameters) :=
    if isListed withParameters scheme then takeParameters t else (t, [])
  return { scheme, authority, path, parameters, query, fragment }

/-- A part with a mark before it, if it is not empty. -/
def marked (mark : Char) (part : Text) : Text :=
  if part.isEmpty then [] else CodePoint.ofChar mark :: part

/-- The text of a reference with a scheme and an authority. -/
def toText (r : Reference) : Text :=
  let path := r.path ++ marked ';' r.parameters
  let path :=
    if path.isEmpty || path.head? = some (CodePoint.ofChar '/') then path
    else CodePoint.ofChar '/' :: path
  r.scheme ++ Text.ofString "://" ++ r.authority ++ path ++ marked '?' r.query ++
    marked '#' r.fragment

/-- The segments of a path without its last one, unless that is empty. -/
def directory (path : Text) : List Text :=
  let segments := Text.splitOn '/' path
  if segments.getLast? = some [] then segments else segments.dropLast

/-- Segments without the empty ones between the first and the last. -/
def withoutGaps : List Text → List Text
  | [] => []
  | first :: rest => first :: (rest.dropLast.filter (!·.isEmpty) ++ rest.drop (rest.length - 1))

/-- The segments passed so far (latest first) after one more: one of a single dot is left out, and
one of two dots takes back the one before. -/
def addSegment (passed : List Text) (segment : Text) : List Text :=
  if segment = Text.ofString ".." then passed.tail
  else if segment = Text.ofString "." then passed
  else segment :: passed

/-- The path of segments. A segment of dots at the end leaves a slash there. -/
def pathOf (segments : List Text) : Text :=
  let passed := segments.foldl addSegment []
  let dots := segments.getLast?.any fun last => last = Text.ofString "." ∨ last = Text.ofString ".."
  let passed := if dots then [] :: passed else passed
  let path := Text.join [CodePoint.ofChar '/'] passed.reverse
  if path.isEmpty then [CodePoint.ofChar '/'] else path

/-- Where a path leads from another one. -/
def resolvePath (base path : Text) : Text :=
  let segments := Text.splitOn '/' path
  if path.head? = some (CodePoint.ofChar '/') then pathOf segments
  else pathOf (withoutGaps (directory base ++ segments))

/-- Where a reference leads from a base of the same scheme. -/
def resolveIn (base reference : Reference) : Reference :=
  if !reference.authority.isEmpty then reference
  else
    let found := { reference with authority := base.authority }
    if reference.path.isEmpty && reference.parameters.isEmpty then
      { found with
        path := base.path
        parameters := base.parameters
        query := if reference.query.isEmpty then base.query else reference.query }
    else { found with path := resolvePath base.path reference.path }

/-- Where a reference leads from a base, which must have an authority; there is no answer if a
bracket in one of them has no counterpart. -/
def resolve? (base reference : Text) : Option Text :=
  if reference.isEmpty then some base
  else do
    let b ← ofText? [] base
    let r ← ofText? b.scheme reference
    if r.scheme = b.scheme && isListed bases r.scheme then return (resolveIn b r).toText
    else return reference

end Reference

end Courier
