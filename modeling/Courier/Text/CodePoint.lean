/-!
Code points and texts.

A text is a list of Unicode code points. Unlike characters, code points include the surrogates
U+D800 to U+DFFF: a JSON escape such as `\ud800` may leave one on its own inside a string, and it
has to travel through the program until some encoding refuses it. Every position and every length
in the library counts code points.
-/

namespace Courier

/-- A Unicode code point, surrogates included. -/
structure CodePoint where
  toNat : Nat
  isLt : toNat < 0x110000
deriving DecidableEq

/-- A text is a list of code points. -/
abbrev Text := List CodePoint

namespace CodePoint

/-- The code point of a character. -/
def ofChar (c : Char) : CodePoint where
  toNat := c.toNat
  isLt := by
    rcases c.valid with h | h
    · exact Nat.lt_trans h (by decide)
    · exact h.2

@[simp] theorem toNat_ofChar (c : Char) : (ofChar c).toNat = c.toNat := rfl

/-- Different characters are different code points. -/
@[simp] theorem ofChar_inj {a b : Char} : ofChar a = ofChar b ↔ a = b := by
  constructor
  · intro h
    exact Char.toNat_inj.1 (congrArg toNat h)
  · rintro rfl
    rfl

instance : Coe Char CodePoint := ⟨ofChar⟩

/-- U+FFFD, which stands where a byte sequence could not be decoded. -/
def replacement : CodePoint := ⟨0xFFFD, by decide⟩

instance : Inhabited CodePoint := ⟨replacement⟩

/-- The code point of a number; numbers above U+10FFFF give the replacement character. -/
def ofNat (n : Nat) : CodePoint :=
  if h : n < 0x110000 then ⟨n, h⟩ else replacement

theorem toNat_ofNat {n : Nat} (h : n < 0x110000) : (ofNat n).toNat = n := by
  simp [ofNat, h]

/-- The code point that a byte stands for when each byte is one code point. -/
def ofByte (b : UInt8) : CodePoint :=
  ⟨b.toNat, Nat.lt_trans b.toNat_lt (by decide)⟩

/-- Code points are ordered by their numbers. -/
instance : LT CodePoint := ⟨fun a b => a.toNat < b.toNat⟩

instance : DecidableLT CodePoint := fun a b => inferInstanceAs (Decidable (a.toNat < b.toNat))

/-- The first half of a surrogate pair. -/
def isHighSurrogate (c : CodePoint) : Bool := 0xD800 ≤ c.toNat && c.toNat ≤ 0xDBFF

/-- The second half of a surrogate pair. -/
def isLowSurrogate (c : CodePoint) : Bool := 0xDC00 ≤ c.toNat && c.toNat ≤ 0xDFFF

/-- Surrogates are the code points that are not characters and have no UTF-8 form. -/
def isSurrogate (c : CodePoint) : Bool := 0xD800 ≤ c.toNat && c.toNat ≤ 0xDFFF

/-- The code point that a surrogate pair stands for. -/
def ofPair (high low : CodePoint) : CodePoint :=
  ofNat (0x10000 + (high.toNat - 0xD800) * 0x400 + (low.toNat - 0xDC00))

/-- The surrogate pair of a code point above U+FFFF. -/
def toPair (c : CodePoint) : CodePoint × CodePoint :=
  (ofNat (0xD800 + (c.toNat - 0x10000) / 0x400), ofNat (0xDC00 + (c.toNat - 0x10000) % 0x400))

/-- Whether a code point lies in one of the ranges, each of which has a first and a last member. -/
def isIn (ranges : List (Nat × Nat)) (c : CodePoint) : Bool :=
  ranges.any fun (first, last) => first ≤ c.toNat && c.toNat ≤ last

def isAscii (c : CodePoint) : Bool := c.toNat < 0x80

/-- One of the digits 0 to 9. -/
def isDigit (c : CodePoint) : Bool := 0x30 ≤ c.toNat && c.toNat ≤ 0x39

/-- One of the letters A to Z and a to z. -/
def isLetter (c : CodePoint) : Bool :=
  (0x41 ≤ c.toNat && c.toNat ≤ 0x5A) || (0x61 ≤ c.toNat && c.toNat ≤ 0x7A)

/-- The small form of a letter A to Z. -/
def lowerAscii (c : CodePoint) : CodePoint :=
  if 0x41 ≤ c.toNat ∧ c.toNat ≤ 0x5A then ofNat (c.toNat + 0x20) else c

/-- The value of a hexadecimal digit. -/
def hexValue? (c : CodePoint) : Option Nat :=
  if c.isDigit then some (c.toNat - 0x30)
  else if 0x41 ≤ c.toNat && c.toNat ≤ 0x46 then some (c.toNat - 0x37)
  else if 0x61 ≤ c.toNat && c.toNat ≤ 0x66 then some (c.toNat - 0x57)
  else none

/-- The digit of a value below 16, in small letters. -/
def hexLower (n : Nat) : CodePoint := ofNat (if n < 10 then 0x30 + n else 0x57 + n)

/-- The digit of a value below 16, in capital letters. -/
def hexUpper (n : Nat) : CodePoint := ofNat (if n < 10 then 0x30 + n else 0x37 + n)

/-- The character of a code point; a surrogate gives the replacement character. -/
def toChar (c : CodePoint) : Char :=
  if c.isSurrogate then Char.ofNat 0xFFFD else Char.ofNat c.toNat

end CodePoint

namespace Text

/-- The text of a string. -/
def ofString (s : String) : Text := s.toList.map CodePoint.ofChar

/-- Different strings are different texts. -/
theorem ofString_inj {a b : String} : ofString a = ofString b ↔ a = b := by
  rw [ofString, ofString, List.map_inj_right fun _ _ => CodePoint.ofChar_inj.1, String.toList_inj]

instance : Coe String Text := ⟨ofString⟩

/-- The string of a text; surrogates become the replacement character. -/
def toString (t : Text) : String := String.ofList (t.map CodePoint.toChar)

/-- The parts, one after another, with the separator between neighbours. -/
def join (separator : Text) : List Text → Text
  | [] => []
  | part :: parts => part ++ parts.flatMap (separator ++ ·)

@[simp] theorem join_nil (separator : Text) : join separator [] = [] := rfl

@[simp] theorem join_singleton (separator part : Text) : join separator [part] = part := by
  simp [join]

theorem join_cons_cons (separator part next : Text) (parts : List Text) :
    join separator (part :: next :: parts) =
      part ++ separator ++ join separator (next :: parts) := by
  simp [join]

/-- What follows a given beginning. -/
def after? : Text → Text → Option Text
  | [], t => some t
  | _ :: _, [] => none
  | b :: beginning, c :: t => if b = c then after? beginning t else none

theorem after?_eq_some_iff {beginning t rest : Text} :
    after? beginning t = some rest ↔ t = beginning ++ rest := by
  induction beginning generalizing t with
  | nil => simp [after?]
  | cons b beginning ih =>
    cases t with
    | nil => simp [after?]
    | cons c t =>
      by_cases h : b = c
      · simp [after?, h, ih]
      · simp [after?, h, Ne.symm h]

/-- The parts of a text before and after the first occurrence of a code point. -/
def cut? (separator : CodePoint) (t : Text) : Option (Text × Text) :=
  match t.dropWhile (· != separator) with
  | [] => none
  | _ :: rest => some (t.takeWhile (· != separator), rest)

/-- A code point other than the separator belongs to the first part. -/
theorem cut?_cons {separator c : CodePoint} (h : c ≠ separator) (t : Text) :
    cut? separator (c :: t) = (cut? separator t).map fun parts => (c :: parts.1, parts.2) := by
  simp only [cut?, List.dropWhile_cons, List.takeWhile_cons, bne_iff_ne, ne_eq, h,
    not_false_eq_true, if_true]
  split <;> rfl

/-- A text is cut at the first occurrence of the separator. -/
theorem cut?_eq_some_iff {separator : CodePoint} {t before rest : Text} :
    cut? separator t = some (before, rest) ↔
      t = before ++ separator :: rest ∧ separator ∉ before := by
  induction t generalizing before with
  | nil => simp [cut?]
  | cons c t ih =>
    by_cases h : c = separator
    · subst h
      cases before <;> simp +contextual [cut?, eq_comm]
    · rw [cut?_cons h]
      cases before with
      | nil => simp [h]
      | cons b before =>
        simp only [Option.map_eq_some_iff, Prod.exists, Prod.mk.injEq, List.cons.injEq]
        constructor
        · rintro ⟨p, r, hp, ⟨rfl, rfl⟩, rfl⟩
          obtain ⟨rfl, hn⟩ := ih.1 hp
          simp [hn, Ne.symm h]
        · rintro ⟨ht, hn⟩
          simp only [List.cons_append, List.cons.injEq] at ht
          obtain ⟨rfl, rfl⟩ := ht
          have hn : separator ∉ before := fun hm => hn (List.mem_cons_of_mem _ hm)
          exact ⟨before, rest, ih.2 ⟨rfl, hn⟩, ⟨rfl, rfl⟩, rfl⟩

theorem cut?_eq_none_iff {separator : CodePoint} {t : Text} :
    cut? separator t = none ↔ separator ∉ t := by
  induction t with
  | nil => simp [cut?]
  | cons c t ih =>
    by_cases h : c = separator
    · simp [cut?, h]
    · simp [cut?_cons h, ih, Ne.symm h]

/-- The parts of a text before and after the last occurrence of a code point. -/
def cutLast? (separator : CodePoint) (t : Text) : Option (Text × Text) :=
  (cut? separator t.reverse).map fun (after, before) => (before.reverse, after.reverse)

/-- A text is cut at the last occurrence of the separator. -/
theorem cutLast?_eq_some_iff {separator : CodePoint} {t before rest : Text} :
    cutLast? separator t = some (before, rest) ↔
      t = before ++ separator :: rest ∧ separator ∉ rest := by
  simp only [cutLast?, Option.map_eq_some_iff, Prod.exists, Prod.mk.injEq]
  constructor
  · rintro ⟨after, front, h, rfl, rfl⟩
    obtain ⟨ht, hn⟩ := cut?_eq_some_iff.1 h
    exact ⟨by rw [← List.reverse_reverse t, ht]; simp, by simpa using hn⟩
  · rintro ⟨rfl, hn⟩
    refine ⟨rest.reverse, before.reverse, cut?_eq_some_iff.2 ⟨by simp, by simpa using hn⟩, ?_, ?_⟩
      <;> simp

/-- The parts between the code points of a class; there is one part more than those. -/
def splitWhere (inClass : CodePoint → Bool) (t : Text) : List Text :=
  let step := fun (c : CodePoint) (parts : Text × List Text) =>
    if inClass c then ([], parts.1 :: parts.2) else (c :: parts.1, parts.2)
  let parts := t.foldr step ([], [])
  parts.1 :: parts.2

@[simp] theorem splitWhere_nil (inClass : CodePoint → Bool) : splitWhere inClass [] = [[]] := rfl

/-- A code point of the class ends a part. -/
theorem splitWhere_cons_of_pos {inClass : CodePoint → Bool} {c : CodePoint} (h : inClass c = true)
    (t : Text) : splitWhere inClass (c :: t) = [] :: splitWhere inClass t := by
  simp [splitWhere, h]

/-- Any other code point belongs to the part that it starts. -/
theorem splitWhere_cons_of_neg {inClass : CodePoint → Bool} {c : CodePoint}
    (h : inClass c = false) (t : Text) :
    ∃ part parts, splitWhere inClass t = part :: parts ∧
      splitWhere inClass (c :: t) = (c :: part) :: parts := by
  simp [splitWhere, h]

/-- The parts between the occurrences of a code point. -/
def splitOn (separator : CodePoint) (t : Text) : List Text := splitWhere (· = separator) t

/-- The parts between the code points of a class that are not empty. -/
def words (inClass : CodePoint → Bool) (t : Text) : List Text :=
  (splitWhere inClass t).filter (!·.isEmpty)

/-- The text without the leading and trailing code points of a class. -/
def strip (inClass : CodePoint → Bool) (t : Text) : Text :=
  ((t.dropWhile inClass).reverse.dropWhile inClass).reverse

/-- The dictionary order of texts. -/
def le : Text → Text → Bool
  | [], _ => true
  | _ :: _, [] => false
  | a :: s, b :: t => a.toNat < b.toNat || (a = b && le s t)

def hasSurrogate (t : Text) : Bool := t.any CodePoint.isSurrogate

/-- The decimal numeral of a natural number. -/
def ofNat (n : Nat) : Text := (Nat.toDigits 10 n).map CodePoint.ofChar

/-- The decimal numeral of an integer, with a minus sign when it is negative. -/
def ofInt (n : Int) : Text :=
  if n < 0 then CodePoint.ofChar '-' :: ofNat n.natAbs else ofNat n.natAbs

/-- The number that a run of digits denotes in base ten. -/
def digitsValue (digits : Text) : Nat :=
  digits.foldl (fun n c => 10 * n + (c.toNat - 0x30)) 0

/-- The last `width` hexadecimal digits of a number, in small letters. -/
def hex (width n : Nat) : Text :=
  (List.range width).reverse.map fun i => CodePoint.hexLower (n / Nat.pow 16 i % 16)

end Text

end Courier
