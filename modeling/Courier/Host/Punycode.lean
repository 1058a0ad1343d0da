import Courier.Text.CodePoint

/-!
Texts in letters, digits and hyphens.

The ASCII code points of a text come first, followed by a hyphen if there are any. The others follow
in increasing order, each as a number that tells how far a reader has to go from the one before,
counting all places of the text for every code point on the way. The digits of a number, of which
the lowest comes first, have 36 values, and those below a threshold end the number; the thresholds
depend on a bias that follows the size of the numbers.
-/

namespace Courier

namespace Punycode

/-! ## Numbers -/

/-- The threshold of the digit in a place, counted from zero. -/
def threshold (place bias : Nat) : Nat :=
  let t := 36 * (place + 1) - bias
  if t < 1 then 1 else if 26 < t then 26 else t

theorem one_le_threshold (place bias : Nat) : 1 ≤ threshold place bias := by
  simp only [threshold]
  split <;> (try split) <;> omega

theorem threshold_le (place bias : Nat) : threshold place bias ≤ 26 := by
  simp only [threshold]
  split <;> (try split) <;> omega

/-- A number divided by 35 until it is at most 455, and 36 for each time. -/
def shrink (steps delta : Nat) : Nat × Nat :=
  if h : 455 < delta then shrink (steps + 36) (delta / 35) else (steps, delta)
termination_by delta
decreasing_by exact Nat.div_lt_self (by omega) (by omega)

/-- The bias after a number, when the text has `count` code points. -/
def adapt (delta : Nat) (isFirst : Bool) (count : Nat) : Nat :=
  let delta := if isFirst then delta / 700 else delta / 2
  let (steps, delta) := shrink 0 (delta + delta / count)
  steps + 36 * delta / (delta + 38)

/-- The value of a digit: the letters count from zero, the digits 0 to 9 after them. -/
def digitValue? (c : CodePoint) : Option Nat :=
  let c := c.lowerAscii
  if c.isLetter then some (c.toNat - 0x61)
  else if c.isDigit then some (c.toNat - 0x30 + 26)
  else none

/-- The digit of a value below 36. -/
def digit (n : Nat) : CodePoint := .ofNat (if n < 26 then 0x61 + n else 0x30 + (n - 26))

/-- Reading a digit gives its value. -/
theorem digitValue?_digit {n : Nat} (h : n < 36) : digitValue? (digit n) = some n := by
  have all : ∀ m ∈ List.range 36, digitValue? (digit m) = some m := by decide
  exact all n (List.mem_range.mpr h)

/-- The digits of a number from a place on. -/
def writeNumber (bias place n : Nat) : Text :=
  let t := threshold place bias
  if n < t then [digit n]
  else digit (t + (n - t) % (36 - t)) :: writeNumber bias (place + 1) ((n - t) / (36 - t))
termination_by n
decreasing_by
  have := one_le_threshold place bias
  exact Nat.lt_of_le_of_lt (Nat.div_le_self _ _) (by omega)

/-- The number at the beginning of a text, whose digit in a place counts `weight` times and comes
after those that make up `value`, and what follows the number. -/
def readNumber? (bias place weight value : Nat) : Text → Option (Nat × Text)
  | [] => none
  | c :: rest =>
    match digitValue? c with
    | none => none
    | some n =>
      let value := value + n * weight
      let t := threshold place bias
      if n < t then some (value, rest)
      else readNumber? bias (place + 1) (weight * (36 - t)) value rest

/-- A number has at least one digit. -/
theorem length_lt_of_readNumber? {bias place weight value n : Nat} {t rest : Text}
    (h : readNumber? bias place weight value t = some (n, rest)) : rest.length < t.length := by
  induction t generalizing place weight value with
  | nil => simp [readNumber?] at h
  | cons c t ih =>
    simp only [readNumber?] at h
    split at h
    · exact absurd h (by simp)
    · split at h
      · simp_all
      · exact Nat.lt_trans (ih h) (by simp)

/-! ## Texts -/

/-- The text with the code points inserted that numbers tell: the next one is at least `least`, and
is looked for from the place `start` of the text on. -/
def insertAll? (found : Text) (least start bias : Nat) (isFirst : Bool) (t : Text) : Option Text :=
  if t.isEmpty then some found
  else
    match h : readNumber? bias 0 1 0 t with
    | none => none
    | some (delta, rest) =>
      let count := found.length + 1
      let least := least + (start + delta) / count
      let place := (start + delta) % count
      if least < 0x110000 then
        insertAll? (found.take place ++ .ofNat least :: found.drop place) least (place + 1)
          (adapt delta isFirst count) false rest
      else none
termination_by t.length
decreasing_by exact length_lt_of_readNumber? h

/-- The text that is written in letters, digits and hyphens. -/
def decode? (t : Text) : Option Text :=
  match Text.cutLast? '-' t with
  | some (basic, numbers) => insertAll? basic 0x80 0 72 true numbers
  | none => insertAll? [] 0x80 0 72 true t

/-- A text that is being written. -/
structure Writing where
  /-- The numbers written so far. -/
  numbers : Text := []
  /-- The steps since the last number. -/
  delta : Nat := 0
  bias : Nat := 72
  /-- The code points that a reader has found so far. -/
  count : Nat
  isFirst : Bool := true

/-- One place on the way through a text for the code point `least`. -/
def Writing.pass (least : Nat) (w : Writing) (c : CodePoint) : Writing :=
  if c.toNat < least then { w with delta := w.delta + 1 }
  else if c.toNat = least then {
    numbers := w.numbers ++ writeNumber w.bias 0 w.delta
    delta := 0
    bias := adapt w.delta w.isFirst (w.count + 1)
    count := w.count + 1
    isFirst := false }
  else w

/-- The numbers for the code points of a text from `least` on, given as those that differ in
increasing order. -/
def Writing.passAll (t : Text) (least : Nat) (w : Writing) : List Nat → Writing
  | [] => w
  | next :: others =>
    let w := { w with delta := w.delta + (next - least) * (w.count + 1) }
    let w := t.foldl (Writing.pass next) w
    Writing.passAll t (next + 1) { w with delta := w.delta + 1 } others

/-- A number added to others in increasing order, unless it is one of them. -/
def insertNumber (n : Nat) : List Nat → List Nat
  | [] => [n]
  | m :: others =>
    if n < m then n :: m :: others
    else if n = m then m :: others
    else m :: insertNumber n others

/-- A text in letters, digits and hyphens. -/
def encode (t : Text) : Text :=
  let basic := t.filter CodePoint.isAscii
  let others := t.foldl (fun found c => if c.isAscii then found else insertNumber c.toNat found) []
  let numbers := (Writing.passAll t 0x80 { count := basic.length } others).numbers
  if basic.isEmpty then numbers else basic ++ (CodePoint.ofChar '-' :: numbers)

end Punycode

end Courier
