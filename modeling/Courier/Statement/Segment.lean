import Courier.Statement.Fault

/-!
The segments of a statement.

Segments are separated by a pipe with exactly one space on each side. The split is one pass from
left to right with a cursor; at each pipe the two code points before and the two after it decide
whether its spacing is right. A segment ends before the space in front of the pipe, and the next
one starts after the space behind it.
-/

namespace Courier

namespace Segment

def pipe : CodePoint := CodePoint.ofChar '|'

def space : CodePoint := CodePoint.ofChar ' '

/-- The code point some places before a position, if there is one. -/
def before? (text : Array CodePoint) (pos places : Nat) : Option CodePoint :=
  if places ≤ pos then text[pos - places]? else none

/-- The code point some places after a position, if there is one. -/
def after? (text : Array CodePoint) (pos places : Nat) : Option CodePoint :=
  text[pos + places]?

/-- Whether the pipe at a position has one space on each side and no second one. -/
def isSpaced (text : Array CodePoint) (pos : Nat) : Bool :=
  before? text pos 1 = some space && after? text pos 1 = some space &&
    before? text pos 2 != some space && after? text pos 2 != some space

/-- The segment between two positions, which must not be empty. -/
def between (text : Array CodePoint) (start stop : Nat) : Except Fault Text :=
  match (text.extract start stop).toList with
  | [] => .error .pipeSpacing
  | segment => .ok segment

/-- The segments of a text from the cursor on: the cursor is at `pos`, the segment that it is in
starts at `start`, the segments before that are given latest first, and the list holds the code
points that the cursor has still to pass. -/
def scan (text : Array CodePoint) (pos start : Nat) (found : List Text) :
    Text → Except Fault (List Text)
  | [] => do
    let segment ← between text start text.size
    return (segment :: found).reverse
  | c :: rest =>
    if c = pipe then
      if isSpaced text pos then
        match between text start (pos - 1) with
        | .ok segment => scan text (pos + 1) (pos + 2) (segment :: found) rest
        | .error fault => .error fault
      else .error .pipeSpacing
    else scan text (pos + 1) start found rest

/-- The segments of a statement, in order. -/
def split (statement : Text) : Except Fault (List Text) :=
  match statement with
  | [] => .error .emptyInput
  | first :: rest =>
    if first = space ∨ (first :: rest).getLast? = some space then .error .boundarySpacing
    else scan (first :: rest).toArray 0 0 [] (first :: rest)

/-- The statement of a list of segments. -/
def joined (segments : List Text) : Text := Text.join [space, pipe, space] segments

/-- The keyword of a segment and the value after the one space that follows it. -/
def extract (segment : Text) : Except Fault (Keyword × Text) :=
  match Text.cut? space segment with
  | none => .error .missingSpaceAfterKeyword
  | some (token, value) =>
    match Keyword.ofName? token with
    | none => .error .nonUppercaseKeyword
    | some keyword =>
      match value with
      | [] => .error .missingSpaceAfterKeyword
      | c :: _ => if c = space then .error .multipleSpaces else .ok (keyword, value)

end Segment

end Courier
