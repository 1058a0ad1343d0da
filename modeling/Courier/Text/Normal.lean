import Courier.Text.Composite
import Courier.Text.Mark

/-!
Normal form.

Texts that stand for the same may be written with composites or with their parts, and with marks in
different orders. The normal form of a text is found by taking all composites apart, sorting the
marks that follow one another by their classes, and composing what can be composed.
-/

namespace Courier

namespace Hangul

/-- The first syllable. -/
def firstSyllable : Nat := 0xAC00

/-- The first of the 19 leading consonants. -/
def firstLead : Nat := 0x1100

/-- The first of the 21 vowels. -/
def firstVowel : Nat := 0x1161

/-- The code point before the first of the 27 trailing consonants: a syllable without one has the
number zero in its place. -/
def noTail : Nat := 0x11A7

/-- The syllables of one leading consonant. -/
def perLead : Nat := 21 * 28

/-- The place of a syllable among all syllables. -/
def place? (c : CodePoint) : Option Nat :=
  if firstSyllable ≤ c.toNat ∧ c.toNat < firstSyllable + 19 * perLead then
    some (c.toNat - firstSyllable)
  else none

/-- The letters of a syllable. -/
def letters? (c : CodePoint) : Option Text :=
  (place? c).map fun n =>
    let start := [.ofNat (firstLead + n / perLead), .ofNat (firstVowel + n % perLead / 28)]
    if n % 28 = 0 then start else start ++ [.ofNat (noTail + n % 28)]

/-- The syllable of two letters, or of a syllable and a trailing consonant. -/
def syllable? (a b : CodePoint) : Option CodePoint :=
  if firstLead ≤ a.toNat ∧ a.toNat < firstLead + 19 ∧
      firstVowel ≤ b.toNat ∧ b.toNat < firstVowel + 21 then
    some (.ofNat (firstSyllable + (a.toNat - firstLead) * perLead + (b.toNat - firstVowel) * 28))
  else
    match place? a with
    | some n =>
      if n % 28 = 0 ∧ noTail < b.toNat ∧ b.toNat ≤ noTail + 27 then
        some (.ofNat (a.toNat + (b.toNat - noTail)))
      else none
    | none => none

end Hangul

namespace Composite

/-- The parts of a code point in the tables. -/
def parts? (c : CodePoint) : Option Text :=
  match (pairs.find? (·.1 = c.toNat)).or (strayPairs.find? (·.1 = c.toNat)) with
  | some (_, first, second) => some [.ofNat first, .ofNat second]
  | none =>
    (singles.findSome? fun (first, parts) =>
      if first ≤ c.toNat then parts[c.toNat - first]? else none).map fun part => [.ofNat part]

/-- The composite of two code points, if they are written as one. -/
def compose? (a b : CodePoint) : Option CodePoint :=
  (Hangul.syllable? a b).or
    ((pairs.find? fun (_, first, second) => first = a.toNat ∧ second = b.toNat).map
      fun (composite, _) => .ofNat composite)

/-- A code point taken apart, and its parts again, so often as `depth` says. -/
def decompose : (depth : Nat) → CodePoint → Text
  | 0, c => [c]
  | depth + 1, c =>
    match parts? c with
    | some parts => parts.flatMap (decompose depth)
    | none => [c]

/-- The deepest nesting of composites. -/
def maxDepth : Nat := 3

end Composite

namespace Text

/-- A text with all composites taken apart. -/
def decomposed (t : Text) : Text :=
  t.flatMap fun c =>
    if c.isAscii then [c] else (Hangul.letters? c).getD (Composite.decompose Composite.maxDepth c)

/-- A code point added to others in order (latest first): a mark goes before the marks of a greater
class. -/
def addInOrder (found : Text) (c : CodePoint) : Text :=
  match found with
  | [] => [c]
  | d :: before =>
    if c.markClass ≠ 0 ∧ c.markClass < d.markClass then d :: addInOrder before c else c :: found

/-- A text with the marks that follow one another sorted by their classes. -/
def ordered (t : Text) : Text := (t.foldl addInOrder []).reverse

/-- A text that is being composed. -/
structure Composing where
  /-- What cannot change any more (latest first). -/
  done : Text := []
  /-- The latest code point of class zero, the one with which others compose. -/
  starter : Option CodePoint := none
  /-- The marks after it that did not compose with it (latest first). -/
  marks : Text := []

namespace Composing

/-- One more code point. A mark of the same or a greater class before it keeps it apart from the
starter. -/
def add (s : Composing) (c : CodePoint) : Composing :=
  match s.starter with
  | none =>
    if c.markClass = 0 then { s with starter := some c } else { s with done := c :: s.done }
  | some starter =>
    let near := s.marks.head?.all fun m => m.markClass < c.markClass
    match if near then Composite.compose? starter c else none with
    | some composite => { s with starter := some composite }
    | none =>
      if c.markClass = 0 then
        { done := s.marks ++ starter :: s.done, starter := some c, marks := [] }
      else { s with marks := c :: s.marks }

/-- The text composed. -/
def text (s : Composing) : Text := (s.marks ++ s.starter.toList ++ s.done).reverse

end Composing

/-- The normal form of a text. -/
def normalForm (t : Text) : Text :=
  ((ordered (decomposed t)).foldl Composing.add {}).text

/-- Whether a text is in normal form. -/
def isNormal (t : Text) : Bool := normalForm t = t

end Text

end Courier
