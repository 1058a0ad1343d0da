import Courier.Text.Blank
import Courier.Text.Charset
import Courier.Url.Percent

/-!
The parameters of a media type.

The value of a `Content-Type` header is a media type followed by parameters. Long parameters may be
given in numbered sections, and sections whose names end with a star may hold encoded bytes; a
parameter with such sections tells its own character set and language before the first two
apostrophes.
-/

namespace Courier

namespace MediaType

/-! ## Pieces -/

/-- Where a reader of pieces stands. -/
structure Cutting where
  /-- What was read of the current piece (latest first). -/
  piece : Text := []
  /-- The pieces before it (latest first). -/
  pieces : List Text := []
  isQuoted : Bool := false

/-- One more code point. A semicolon ends the piece unless it is quoted; a quote after a backslash
is none. -/
def Cutting.add (s : Cutting) (c : CodePoint) : Cutting :=
  if c = ';' ∧ s.isQuoted = false then { pieces := s.piece.reverse :: s.pieces }
  else
    let isQuote := c = '"' ∧ s.piece.head? ≠ some (CodePoint.ofChar '\\')
    { s with piece := c :: s.piece, isQuoted := if isQuote then !s.isQuoted else s.isQuoted }

/-- The pieces of a value that semicolons separate. -/
def pieces (value : Text) : List Text :=
  let s := value.foldl Cutting.add {}
  (s.piece.reverse :: s.pieces).reverse

/-- The text with every backslash before a given code point left out. -/
def withoutBackslashes (escaped : CodePoint) : Text → Text
  | a :: b :: rest =>
    if a = '\\' ∧ b = escaped then b :: withoutBackslashes escaped rest
    else a :: withoutBackslashes escaped (b :: rest)
  | t => t

/-- Whether a text of at least two code points begins and ends with given ones. -/
def isBetween (first last : Char) (t : Text) : Bool :=
  2 ≤ t.length && t.head? = some (CodePoint.ofChar first) &&
    t.getLast? = some (CodePoint.ofChar last)

/-- A value without the quotes or the angle brackets around it. -/
def unquote (value : Text) : Text :=
  if isBetween '"' '"' value then
    withoutBackslashes '"' (withoutBackslashes '\\' value.tail.dropLast)
  else if isBetween '<' '>' value then value.tail.dropLast
  else value

/-- The name and the value of a piece; one without an equals sign is a name. -/
def nameAndValue (piece : Text) : Text × Text :=
  let strip := Text.strip CodePoint.isBlank
  match Text.cut? '=' piece with
  | some (name, value) => ((strip name).map CodePoint.lowerAscii, unquote (strip value))
  | none => (strip piece, [])

/-! ## Sections -/

/-- A section of a parameter. -/
structure Section where
  number : Option Nat
  value : Text
  isEncoded : Bool

/-- A code point of the name of a parameter with sections. -/
def inName (c : CodePoint) : Bool := c.isLetter || c.isDigit || c = '_'

/-- The name of the parameter that a section belongs to, and the number of the section, if a name is
one of a section: it has a star, a number after it or none, and a star after the number or none. -/
def sectionName? (name : Text) : Option (Text × Option Nat) := do
  let (parameter, rest) ← Text.cut? '*' name
  if parameter.isEmpty || !parameter.all inName then none
  else if rest.isEmpty then some (parameter, none)
  else
    let (digits, star) := rest.span CodePoint.isDigit
    if !digits.isEmpty && (star.isEmpty || star = [CodePoint.ofChar '*']) then
      some (parameter, some (Text.digitsValue digits))
    else none

/-- The order of sections: by their numbers, their values, and whether they are encoded. -/
def Section.le (a b : Section) : Bool :=
  let m := a.number.getD 0
  let n := b.number.getD 0
  if m ≠ n then m < n
  else if a.value ≠ b.value then Text.le a.value b.value
  else !a.isEncoded || b.isEncoded

/-- The text of a section, in which every encoded byte is a code point. -/
def Section.text (s : Section) : Text :=
  if s.isEncoded then
    Latin1.decode (Percent.asciiBytes [] s.value)
  else s.value

/-- A parameter. -/
inductive Value
  | plain (t : Text)
  /-- A text in a character set whose name, if it has one, is told with it. -/
  | encoded (charset t : Text)

/-- The parts of a text around its first two apostrophes, if it has as many. -/
def thirds? (t : Text) : Option (Text × Text) := do
  let (first, rest) ← Text.cut? (.ofNat 0x27) t
  let (_, third) ← Text.cut? (.ofNat 0x27) rest
  return (first, third)

/-- The value of a parameter in sections. -/
def Value.ofSections (sections : List Section) : Value :=
  let sections := sections.mergeSort Section.le
  let t := sections.flatMap Section.text
  if sections.any Section.isEncoded then
    let (charset, t) := (thirds? t).getD ([], t)
    .encoded charset t
  else .plain t

/-- Sections with and without numbers cannot be ordered. -/
def areMixed (sections : List Section) : Bool :=
  sections.any (·.number.isSome) && sections.any (·.number.isNone)

/-! ## Parameters -/

/-- Parameters as they are gathered: those that are whole, and the sections of the others, each in
the order of their first appearance. -/
structure Gathering where
  whole : List (Text × Value) := []
  sections : List (Text × List Section) := []

/-- The sections of parameters with one more. -/
def addSection (parameter : Text) (s : Section) :
    List (Text × List Section) → List (Text × List Section)
  | [] => [(parameter, [s])]
  | (name, sections) :: others =>
    if name = parameter then (name, sections ++ [s]) :: others
    else (name, sections) :: addSection parameter s others

/-- The parameters with one more. -/
def Gathering.add (g : Gathering) (entry : Text × Text) : Gathering :=
  let (name, value) := entry
  match sectionName? name with
  | some (parameter, number) =>
    let isEncoded := name.getLast? = some (CodePoint.ofChar '*')
    { g with sections := addSection parameter { number, value, isEncoded } g.sections }
  | none => { g with whole := g.whole ++ [(name, .plain value)] }

/-- The parameters of a value, those in sections last. The first piece, the media type, counts as
one that is whole. There are none if the sections of one cannot be ordered. -/
def parameters? (value : Text) : Option (List (Text × Value)) :=
  match (pieces value).map nameAndValue with
  | [] => some []
  | (name, first) :: others =>
    let g := others.foldl Gathering.add { whole := [(name, .plain first)] }
    if g.sections.any fun entry => areMixed entry.2 then none
    else
      some (g.whole ++ g.sections.map fun entry => (entry.1, Value.ofSections entry.2))

/-! ## Character sets -/

/-- What is wrong with the character set that a media type names. -/
inductive CharsetFault
  /-- A parameter has sections with and without numbers. -/
  | mixed
  /-- A name of a character set has a zero. -/
  | zero
deriving DecidableEq

/-- The character set of a name, which must not have a zero. -/
def lookUp? (name : Text) : Except CharsetFault (Option Charset) :=
  if name.any (·.toNat = 0) then .error .zero else .ok (Charset.ofName? name)

/-- The text that a value stands for. One that does not suit its character set stands for itself. -/
def Value.text : Value → Except CharsetFault Text
  | .plain t => .ok t
  | .encoded charset t => do
    let charset ← lookUp? (if charset.isEmpty then Text.ofString "us-ascii" else charset)
    return ((charset.bind fun charset => (Latin1.encode? t).bind charset.decode?).getD t)

/-- The character set that a value of a `Content-Type` header names. A name outside of ASCII is
none, nor is an unknown one. -/
def charset? (value : Text) : Except CharsetFault (Option Charset) :=
  match parameters? value with
  | none => .error .mixed
  | some parameters =>
    match parameters.find? fun entry =>
        entry.1.map CodePoint.lowerAscii = Text.ofString "charset" with
    | none => .ok none
    | some (_, value) => do
      let name ← value.text
      if name.all CodePoint.isAscii then lookUp? name else return none

end MediaType

end Courier
