import Courier.Json.Value
import Courier.Number.Numeral
import Courier.Text.Blank

/-!
Reading JSON texts.

The reader follows the grammar: each function reads one production at the beginning of a text and
returns what it denotes together with the rest. Values nest at most `maxNesting` deep, so reading
is a recursion on the nesting that is still allowed; inside an array or object the items are read
in rounds, of which there are no more than the text has code points.
-/

namespace Courier

namespace Json

/-- Whether a text may hold `NaN`, `Infinity` and `-Infinity` in the place of numbers. -/
inductive Dialect
  | strict
  | lenient
deriving DecidableEq

/-- The deepest nesting of arrays and objects that is read. -/
def maxNesting : Nat := 1000

/-- The most digits of an integer. -/
def maxDigits : Nat := 4300

/-- The text after the blanks at its beginning. -/
def skipBlanks (t : Text) : Text := t.dropWhile CodePoint.isJsonBlank

/-! ## Strings -/

/-- The code point that a one-letter escape stands for. -/
def simpleEscape? (c : CodePoint) : Option CodePoint :=
  if c = '"' ∨ c = '\\' ∨ c = '/' then some c
  else if c = 'b' then some (CodePoint.ofNat 0x08)
  else if c = 'f' then some (CodePoint.ofNat 0x0C)
  else if c = 'n' then some (CodePoint.ofNat 0x0A)
  else if c = 'r' then some (CodePoint.ofNat 0x0D)
  else if c = 't' then some (CodePoint.ofNat 0x09)
  else none

/-- The code point that four hexadecimal digits denote. -/
def unitOf? (a b c d : CodePoint) : Option CodePoint := do
  let a ← a.hexValue?
  let b ← b.hexValue?
  let c ← c.hexValue?
  let d ← d.hexValue?
  return CodePoint.ofNat (0x1000 * a + 0x100 * b + 0x10 * c + d)

/-- Appends an escaped unit to the string read so far (latest first). A low surrogate joins a high
one before it if that was written as an escape too. -/
def pushUnit (pending : Bool) (found : Text) (unit : CodePoint) : Text :=
  match found with
  | high :: before =>
    if pending && unit.isLowSurrogate then CodePoint.ofPair high unit :: before else unit :: found
  | [] => [unit]

/-- The rest of a string up to its closing quote, after what was read of it so far (latest first);
`pending` tells that the latest code point is a high surrogate written as an escape. -/
def readString (pending : Bool) (found : Text) : Text → Option (Text × Text)
  | [] => none
  | c :: t =>
    if c = '"' then some (found.reverse, t)
    else if c = '\\' then
      match t with
      | [] => none
      | e :: t =>
        if e = 'u' then
          match t with
          | a :: b :: c :: d :: t =>
            match unitOf? a b c d with
            | some unit => readString unit.isHighSurrogate (pushUnit pending found unit) t
            | none => none
          | _ => none
        else
          match simpleEscape? e with
          | some c => readString false (c :: found) t
          | none => none
    else if c.toNat < 0x20 then none
    else readString false (c :: found) t

/-! ## Numbers -/

/-- A number as it is written. -/
structure Numeral where
  negative : Bool
  whole : Text
  fraction : Option Text
  /-- The exponent: its sign, if one is written, and its digits. -/
  exponent : Option (Option CodePoint × Text)

namespace Numeral

/-- The digits before the point: a zero that stands alone, or digits that start with another. -/
def readWhole (t : Text) : Option (Text × Text) :=
  match t with
  | [] => none
  | c :: rest =>
    if c = '0' then some ([c], rest)
    else if c.isDigit then some (t.span CodePoint.isDigit)
    else none

/-- A point and the digits after it, if there are any. -/
def readFraction (t : Text) : Option Text × Text :=
  match t with
  | c :: rest =>
    if c = '.' then
      match rest.span CodePoint.isDigit with
      | ([], _) => (none, t)
      | (digits, after) => (some digits, after)
    else (none, t)
  | [] => (none, t)

/-- The sign of an exponent, if one is written. -/
def readSign (t : Text) : Option CodePoint × Text :=
  match t with
  | c :: rest => if c = '+' ∨ c = '-' then (some c, rest) else (none, t)
  | [] => (none, t)

/-- The letter `e`, a sign and digits, if there are any. -/
def readExponent (t : Text) : Option (Option CodePoint × Text) × Text :=
  match t with
  | c :: rest =>
    if c = 'e' ∨ c = 'E' then
      let (sign, rest) := readSign rest
      match rest.span CodePoint.isDigit with
      | ([], _) => (none, t)
      | (digits, after) => (some (sign, digits), after)
    else (none, t)
  | [] => (none, t)

/-- The longest number at the beginning of a text. -/
def read (t : Text) : Option (Numeral × Text) := do
  let (negative, t) := match t with
    | c :: rest => if c = '-' then (true, rest) else (false, t)
    | [] => (false, t)
  let (whole, t) ← readWhole t
  let (fraction, t) := readFraction t
  let (exponent, t) := readExponent t
  return (⟨negative, whole, fraction, exponent⟩, t)

/-- The integer that an exponent denotes. -/
def exponentValue : Option (Option CodePoint × Text) → Int
  | none => 0
  | some (sign, digits) =>
    if sign = some (CodePoint.ofChar '-') then -(Text.digitsValue digits : Int)
    else Text.digitsValue digits

/-- The value of a number: an integer unless it has a fraction or an exponent. Integers with too
many digits have none. -/
def toJson? (n : Numeral) : Option Json :=
  match n.fraction, n.exponent with
  | none, none =>
    if n.whole.length ≤ maxDigits then
      let value := Text.digitsValue n.whole
      some (.int (if n.negative then -(value : Int) else value))
    else none
  | fraction, exponent =>
    some (.float (Binary64.ofDigits n.negative n.whole (fraction.getD []) (exponentValue exponent)))

end Numeral

/-! ## Values -/

/-- The words that are values in every dialect. -/
def plainWords : List (String × Json) :=
  [("null", .null), ("true", .bool true), ("false", .bool false)]

/-- The words for numbers that are not finite. -/
def constants : List (String × Json) :=
  [("NaN", .float .nan), ("Infinity", .float (.infinite false)),
    ("-Infinity", .float (.infinite true))]

/-- The words that are values. -/
def words : Dialect → List (String × Json)
  | .strict => plainWords
  | .lenient => plainWords ++ constants

/-- A word or a number at the beginning of a text. -/
def readScalar (dialect : Dialect) (t : Text) : Option (Json × Text) :=
  let word? := (words dialect).findSome? fun (word, v) =>
    (Text.after? (Text.ofString word) t).map (v, ·)
  match word? with
  | some found => some found
  | none => do
    let (numeral, rest) ← Numeral.read t
    return (← numeral.toJson?, rest)

/-- Items separated by commas up to a closing bracket, after the items read so far (latest
first). There is at least one more item. -/
def readItems {α : Type} (item : Text → Option (α × Text)) (close : CodePoint) :
    (rounds : Nat) → (found : List α) → Text → Option (List α × Text)
  | 0, _, _ => none
  | rounds + 1, found, t =>
    match item t with
    | none => none
    | some (v, t) =>
      match skipBlanks t with
      | [] => none
      | c :: t =>
        if c = ',' then readItems item close rounds (v :: found) (skipBlanks t)
        else if c = close then some ((v :: found).reverse, t)
        else none

/-- The items of an array or the members of an object, after the opening bracket. -/
def readList {α : Type} (item : Text → Option (α × Text)) (close : CodePoint) (rounds : Nat)
    (t : Text) : Option (List α × Text) :=
  let t := skipBlanks t
  match t with
  | [] => none
  | c :: rest => if c = close then some ([], rest) else readItems item close rounds [] t

/-- A key, a colon and a value. -/
def readMember (value : Text → Option (Json × Text)) (t : Text) :
    Option ((Text × Json) × Text) :=
  match t with
  | [] => none
  | q :: t =>
    if q = '"' then
      match readString false [] t with
      | none => none
      | some (key, t) =>
        match skipBlanks t with
        | [] => none
        | c :: t =>
          if c = ':' then (value (skipBlanks t)).map fun (v, t) => ((key, v), t) else none
    else none

/-- A value at the beginning of a text, with at most `nesting` arrays and objects inside one
another. -/
def readValue (dialect : Dialect) (rounds : Nat) : (nesting : Nat) → Text → Option (Json × Text)
  | nesting, t =>
    match t with
    | [] => none
    | c :: rest =>
      if c = '"' then (readString false [] rest).map fun (s, t) => (.string s, t)
      else if c = '[' then
        match nesting with
        | 0 => none
        | nesting + 1 =>
          (readList (readValue dialect rounds nesting) ']' rounds rest).map fun (items, t) =>
            (.array items, t)
      else if c = '\x7b' then
        match nesting with
        | 0 => none
        | nesting + 1 =>
          (readList (readMember (readValue dialect rounds nesting)) '\x7d' rounds rest).map
            fun (entries, t) => (.object (Fields.ofEntries entries), t)
      else readScalar dialect t

/-- The value of a JSON text: a value with nothing but blanks around it. -/
def read? (dialect : Dialect) (t : Text) : Option Json :=
  match readValue dialect t.length maxNesting (skipBlanks t) with
  | some (v, rest) => if (skipBlanks rest).isEmpty then some v else none
  | none => none

end Json

end Courier
