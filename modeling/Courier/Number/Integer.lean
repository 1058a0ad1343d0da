import Courier.Text.Blank

/-!
Integers in digits of any script.
-/

namespace Courier

namespace Text

/-- The most digits of an integer in a text. -/
def maxIntegerDigits : Nat := 4300

/-- The number that digits of any script denote in base ten. -/
def anyDigitsValue? (digits : Text) : Option Nat :=
  digits.foldlM (fun n c => c.digitValue?.map (10 * n + ·)) 0

/-- The integer that a text denotes: blanks around it, a sign before it and single underscores
between its digits are allowed. -/
def toInt? (t : Text) : Option Int :=
  let t := strip CodePoint.isBlank t
  let (negative, digits) := match t with
    | c :: rest => if c = '-' then (true, rest) else if c = '+' then (false, rest) else (false, t)
    | [] => (false, t)
  let groups := splitOn '_' digits
  if groups.any List.isEmpty ∨ maxIntegerDigits < groups.flatten.length then none
  else
    (anyDigitsValue? groups.flatten).map fun n => if negative then -(n : Int) else (n : Int)

end Text

end Courier
