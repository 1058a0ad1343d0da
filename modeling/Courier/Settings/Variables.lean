import Courier.Json.Value
import Courier.Text.Blank
import Courier.Text.Quoted

/-!
Variables from the environment and from a file.

A file of variables holds statements `NAME=value`, one on a line, with comments after number signs,
quotes around values that may extend over lines, and the word `export` before names. A statement
that is not in order is left out. Names are compared in small letters, the last value of a name
counts, and the environment goes before the file.
-/

namespace Courier

namespace Variables

/-- Whether a code point ends a line. -/
def isLineEnd (c : CodePoint) : Bool := c.toNat = 0x0A

/-- A blank within a line. -/
def isInlineBlank (c : CodePoint) : Bool := c.isBlank && !isLineEnd c

/-- A text in which every line ends with a line feed; a carriage return ends a line too, alone or
before a line feed. -/
def withLineFeeds : Text → Text
  | [] => []
  | [c] => [if c.toNat = 0x0D then CodePoint.ofChar '\n' else c]
  | c :: d :: rest =>
    if c.toNat = 0x0D then
      if d.toNat = 0x0A then withLineFeeds (d :: rest)
      else CodePoint.ofChar '\n' :: withLineFeeds (d :: rest)
    else c :: withLineFeeds (d :: rest)

/-- The text after the current line. -/
def skipLine (t : Text) : Text := (t.dropWhile (!isLineEnd ·)).tail

/-- The text after the word `export` and blanks. -/
def skipExport (t : Text) : Text :=
  match Text.after? (Text.ofString "export") t with
  | some rest =>
    if (rest.head?.any isInlineBlank) = true then rest.dropWhile isInlineBlank else t
  | none => t

/-- A text up to the closing quote, after what was read of it (latest first), and the text after
the quote. A backslash keeps the code point after it from closing. -/
def untilQuote (quote : CodePoint) (found : Text) : Text → Option (Text × Text)
  | [] => none
  | [c] => if c = quote then some (found.reverse, []) else none
  | c :: d :: rest =>
    if c = '\\' then untilQuote quote (d :: c :: found) rest
    else if c = quote then some (found.reverse, d :: rest)
    else untilQuote quote (c :: found) (d :: rest)

/-- What an escape in a quoted value stands for. Within apostrophes only the backslash and the
apostrophe are escaped. -/
def escaped? (double : Bool) (c : CodePoint) : Option CodePoint :=
  if c = '\\' ∨ c.toNat = 0x27 then some c
  else if !double then none
  else if c = '"' then some c
  else if c = 'a' then some (CodePoint.ofNat 0x07)
  else if c = 'b' then some (CodePoint.ofNat 0x08)
  else if c = 'f' then some (CodePoint.ofNat 0x0C)
  else if c = 'n' then some (CodePoint.ofNat 0x0A)
  else if c = 'r' then some (CodePoint.ofNat 0x0D)
  else if c = 't' then some (CodePoint.ofNat 0x09)
  else if c = 'v' then some (CodePoint.ofNat 0x0B)
  else none

/-- A quoted value with its escapes resolved, after what was resolved before (latest first). -/
def resolve (double : Bool) (found : Text) : Text → Text
  | [] => found.reverse
  | [c] => (c :: found).reverse
  | c :: d :: rest =>
    let meant? := if c = '\\' then escaped? double d else none
    match meant? with
    | some meant => resolve double (meant :: found) rest
    | none => resolve double (c :: found) (d :: rest)

/-- A line without the comment that a blank and a number sign start, after what was read of it
(latest first). -/
def uncommented (found : Text) : Text → Text
  | [] => found.reverse
  | c :: rest =>
    if c = '#' ∧ (found.head?.any CodePoint.isBlank) = true then found.reverse
    else uncommented (c :: found) rest

/-- The name of a variable at the beginning of a line, and the text after it; a comment has none. A
name between apostrophes holds anything but those, and may extend over lines. Where there is no
name, and likewise for the other parts of a statement below, the text from there on is the error. -/
def readName (t : Text) : Except Text (Option Text × Text) :=
  match t with
  | [] => .error t
  | c :: rest =>
    if c = '#' then .ok (none, t)
    else if c = CodePoint.apostrophe then
      match Text.cut? CodePoint.apostrophe rest with
      | some (name, after) => if name.isEmpty then .error t else .ok (some name, after)
      | none => .error t
    else
      let (name, after) := t.span fun (c : CodePoint) => !(c = '=' || c = '#' || c.isBlank)
      if name.isEmpty then .error t else .ok (some name, after)

/-- A value between quotes with its escapes resolved. -/
def readQuoted (quote : CodePoint) (t rest : Text) : Except Text (Text × Text) :=
  match untilQuote quote [] rest with
  | some (raw, after) => .ok (resolve (quote = '"') [] raw, after)
  | none => .error t

/-- A value, after the blanks before it (latest first). A value without quotes extends to the end of
the line or to a comment; the blanks count for the comment only. -/
def readValue (blanks t : Text) : Except Text (Text × Text) :=
  match t with
  | [] => .ok ([], [])
  | c :: rest =>
    if c = CodePoint.apostrophe ∨ c = '"' then readQuoted c t rest
    else
      let (line, after) := t.span (!isLineEnd ·)
      .ok (Text.strip CodePoint.isBlank (uncommented blanks line), after)

/-- The text after a comment and the end of the line, if nothing else is left on the line. -/
def endLine (t : Text) : Except Text Text :=
  let after := t.dropWhile isInlineBlank
  let after :=
    if after.head? = some (CodePoint.ofChar '#') then after.dropWhile (!isLineEnd ·) else after
  match after with
  | [] => .ok []
  | c :: rest => if isLineEnd c then .ok rest else .error t

/-- A statement of a file: the name and the value of a variable, if it has them. -/
def readStatement (t : Text) : Except Text ((Option Text × Option Text) × Text) := do
  let (name, t) ← readName (skipExport t)
  let t := t.dropWhile isInlineBlank
  let (value, t) ← match Text.after? [CodePoint.ofChar '='] t with
    | some rest => do
      let (blanks, rest) := rest.span isInlineBlank
      let (value, t) ← readValue blanks.reverse rest
      pure (some value, t)
    | none => pure (none, t)
  let t ← endLine t
  return ((name, value), t)

/-- A value with the references in it replaced: `${NAME}` stands for the value of a variable, and
`${NAME:-usual}` for it or for what follows the sign if there is none. There are no more references
than code points. -/
def expand (known : Text → Option Text) : (rounds : Nat) → Text → Text
  | 0, t => t
  | rounds + 1, t =>
    let (before, rest) := t.span (· != CodePoint.ofChar '$')
    match rest with
    | [] => before
    | dollar :: after =>
      let reference? := do
        let inside ← Text.after? [CodePoint.ofChar '\x7b'] after
        let (name, rest) := inside.span fun (c : CodePoint) => !(c = '\x7d' || c = ':')
        let (usual, rest) ← match Text.after? (Text.ofString ":-") rest with
          | some rest => some (rest.span (· != CodePoint.ofChar '\x7d'))
          | none => some ([], rest)
        let rest ← Text.after? [CodePoint.ofChar '\x7d'] rest
        return ((known name).getD usual, rest)
      match reference? with
      | some (value, rest) => before ++ value ++ expand known rounds rest
      | none => before ++ (dollar :: expand known rounds after)

/-- A file of variables, as far as it can be read. -/
structure Listing where
  values : Fields (Option Text) := []
  /-- The numbers of the lines before which the reader stood when it met a statement that is not in
  order: such a statement may be preceded by empty lines. -/
  unreadable : List Nat := []

/-- The number of the line that a text begins in, when it ends a file of the given number of
lines. -/
def lineNumber (lines : Nat) (t : Text) : Nat := lines - (t.filter isLineEnd).length

/-- The variables of the rest of a file, in the order of their statements, after those found so far.
A statement that is not in order is left out with the line where that shows; there are no more
statements than code points. -/
def readStatements (environment : Fields Text) (lines : Nat) (found : Listing) :
    (rounds : Nat) → Text → Listing
  | 0, _ => found
  | rounds + 1, t =>
    let begun := t.dropWhile CodePoint.isBlank
    if begun.isEmpty then found
    else
      match readStatement begun with
      | .ok ((some name, value), rest) =>
        let known := fun name =>
          match found.values.get? name with
          | some value => some (value.getD [])
          | none => environment.get? name
        let value := value.map fun value => expand known value.length value
        readStatements environment lines
          { found with values := found.values.insert name value } rounds rest
      | .ok ((none, _), rest) => readStatements environment lines found rounds rest
      | .error reached =>
        readStatements environment lines
          { found with unreadable := found.unreadable ++ [lineNumber lines t] } rounds
          (skipLine reached)

/-- The mark that may stand at the beginning of a file. -/
def byteOrderMark : CodePoint := ⟨0xFEFF, by decide⟩

/-- The variables of a file. References in it see the statements before and the environment. -/
def ofFile (environment : Fields Text) (content : Text) : Listing :=
  let content := withLineFeeds ((Text.after? [byteOrderMark] content).getD content)
  readStatements environment ((content.filter isLineEnd).length + 1) {} content.length content

/-- What is said about a statement that is not in order. -/
def warning (line : Nat) : Text :=
  Text.ofString "python-dotenv could not parse statement starting at line " ++ Text.ofNat line

/-- The value of a variable among others. Names are compared in small letters, and the last of
several that agree counts. -/
def value? (vars : Fields (Option Text)) (name : String) : Option Text :=
  (vars.reverse.find? fun field =>
    field.1.map CodePoint.lowerAscii = (Text.ofString name).map CodePoint.lowerAscii).bind (·.2)

/-- The value of a variable in the environment or else in a file. -/
def lookup (environment : Fields Text) (file : Fields (Option Text)) (name : String) :
    Option Text :=
  (value? (environment.map fun field => (field.1, some field.2)) name).or (value? file name)

end Variables

end Courier
