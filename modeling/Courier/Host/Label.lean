import Courier.Host.Direction
import Courier.Host.Joining
import Courier.Host.Punycode
import Courier.Host.Script
import Courier.Text.Normal

/-!
The labels of host names.

A label is a text in normal form of letters, digits, marks and single hyphens. A few code points
are admitted between certain neighbours only, and a label with letters from right to left must not
mix directions. On the wire a label outside of ASCII is written in letters, digits and hyphens after
a prefix of its own.
-/

namespace Courier

/-- What is wrong with a label or a host name. -/
inductive LabelFault
  /-- It is empty or too long, not in normal form, or its hyphens, its first mark or a joiner in it
  are out of place; or its written form stands for no text. -/
  | malformed
  /-- It has a code point that is not admitted. -/
  | codePoint
  /-- It has a code point that is not admitted between its neighbours. -/
  | context
  /-- It mixes directions. -/
  | direction
deriving DecidableEq

namespace Label

/-- The most code points of a host name in any form, and so of a label. -/
def maxLength : Nat := 254

/-- The most code points of a label on the wire. -/
def maxWritten : Nat := 63

/-! ## Neighbours -/

/-- The class of the marks that take the vowel from a letter. -/
def virama : Nat := 9

/-- Whether a zero width non-joiner may stand between the code points before it (latest first) and
those after it: after a mark that takes a vowel, or between letters that would join. -/
def allowsNonJoiner (before after : Text) : Bool :=
  match before with
  | [] => false
  | previous :: _ =>
    previous.markClass = virama ||
      (!previous.isRecent &&
        (before.dropWhile CodePoint.isTransparent).head?.any CodePoint.joinsNext &&
        (after.dropWhile CodePoint.isTransparent).head?.any CodePoint.joinsPrevious)

/-- Whether a zero width joiner may stand after others (latest first). -/
def allowsJoiner (before : Text) : Bool := before.head?.any (·.markClass = virama)

def isArabicDigit (c : CodePoint) : Bool := 0x660 ≤ c.toNat && c.toNat ≤ 0x669

def isPersianDigit (c : CodePoint) : Bool := 0x6F0 ≤ c.toNat && c.toNat ≤ 0x6F9

/-- Whether a code point of a label that is not a joiner may stand where it does, if that depends on
the code points before it (latest first), those after it or all others: the point of Catalan between
two letters l, the Greek numeral sign before a Greek letter, the Hebrew marks after a Hebrew letter,
the Japanese point in Japanese labels, and Arabic digits of one kind. -/
def allows? (label before : Text) (c : CodePoint) (after : Text) : Option Bool :=
  if c.toNat = 0xB7 then
    some (before.head? = some (CodePoint.ofChar 'l') && after.head? = some (CodePoint.ofChar 'l'))
  else if c.toNat = 0x375 then some (after.head?.any Script.greek.contains)
  else if c.toNat = 0x5F3 ∨ c.toNat = 0x5F4 then some (before.head?.any Script.hebrew.contains)
  else if c.toNat = 0x30FB then
    some (label.any fun d => d != c &&
      (Script.hiragana.contains d || Script.katakana.contains d || Script.han.contains d))
  else if isArabicDigit c then some (!label.any isPersianDigit)
  else if isPersianDigit c then some (!label.any isArabicDigit)
  else none

/-- Checks the code points of a label that follow others (latest first). -/
def checkCodePoints (label before : Text) : Text → Except LabelFault Unit
  | [] => .ok ()
  | c :: after =>
    let fault? :=
      if c.isAdmitted then none
      else if c.toNat = 0x200C then
        if allowsNonJoiner before after then none else some .malformed
      else if c.toNat = 0x200D then if allowsJoiner before then none else some .malformed
      else
        match allows? label before c after with
        | some true => none
        | some false => some .context
        | none => some .codePoint
    match fault? with
    | none => checkCodePoints label (c :: before) after
    | some fault => .error fault

/-! ## Directions -/

/-- Whether a label with letters from right to left may have a code point of a class. -/
def allowedRightToLeft (d : Direction) : Bool := d != .leftToRight

/-- Whether a label whose first letter is from left to right may have a code point of a class. -/
def allowedLeftToRight (d : Direction) : Bool :=
  d != .rightToLeft && d != .arabicLetter && d != .arabicNumber

/-- Whether the last class of a label that is not one of marks passes a test. -/
def endsWith (test : Direction → Bool) (ds : List Direction) : Bool :=
  (ds.reverse.dropWhile (· = .mark)).head?.any test

/-- Whether the classes of a label are in order: those of a label with a letter or number from right
to left must suit its first letter, it must end with a letter or number and have numbers of one
kind. -/
def areDirections (ds : List Direction) : Bool :=
  if ds.all allowedLeftToRight then true
  else
    match ds with
    | .rightToLeft :: _ | .arabicLetter :: _ =>
      ds.all allowedRightToLeft &&
        endsWith (fun d =>
          d = .rightToLeft || d = .arabicLetter || d = .number || d = .arabicNumber) ds &&
        !(ds.contains .number && ds.contains .arabicNumber)
    | _ => false

/-! ## Labels -/

/-- Whether hyphens stand neither at an end nor in the third and the fourth place. -/
def areHyphensInside (label : Text) : Bool :=
  let hyphen := CodePoint.ofChar '-'
  label.head? != some hyphen && label.getLast? != some hyphen &&
    (label.drop 2).take 2 != [hyphen, hyphen]

/-- Checks a label. -/
def check (label : Text) : Except LabelFault Unit :=
  if label.isEmpty ∨ maxLength < label.length ∨ ¬label.isNormal ∨ ¬areHyphensInside label ∨
      (label.head?.any CodePoint.isMark) = true then .error .malformed
  else
    match checkCodePoints label [] label with
    | .error fault => .error fault
    | .ok () =>
      match label.mapM Direction.of? with
      | some ds => if areDirections ds then .ok () else .error .direction
      | none => .error .direction

/-- What a label outside of ASCII begins with on the wire. -/
def mark : Text := Text.ofString "xn--"

/-- The text of a label on the wire, which is in ASCII. -/
def read (written : Text) : Except LabelFault Text :=
  let written := written.map CodePoint.lowerAscii
  match Text.after? mark written with
  | none => (check written).map fun _ => written
  | some written =>
    if written.isEmpty ∨ written.getLast? = some (CodePoint.ofChar '-') then .error .malformed
    else
      match Punycode.decode? written with
      | none => .error .malformed
      | some label => (check label).map fun _ => label

/-- A label as it is on the wire. -/
def write (label : Text) : Except LabelFault Text := do
  let written ←
    if label.all CodePoint.isAscii then (read label).map fun _ => label
    else (check label).map fun _ => mark ++ Punycode.encode label
  if maxWritten < written.length then throw .malformed else return written

end Label

end Courier
