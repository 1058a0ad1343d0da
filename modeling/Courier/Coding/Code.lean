import Courier.Coding.Bits

/-!
Prefix codes.

The codes of symbols are determined by their lengths: shorter codes come before longer ones, and the
codes of one length follow the order of their symbols.
-/

namespace Courier

/-- A prefix code. -/
structure PrefixCode where
  /-- How many codes there are of each length, from one bit on. -/
  counts : List Nat
  /-- The symbols in the order of their codes. -/
  symbols : Array Nat

namespace PrefixCode

/-- How many codes of the greatest length are still free; if the number is negative there are more
codes than fit. -/
def room (counts : List Nat) : Int :=
  counts.foldl (fun (left : Int) (n : Nat) => 2 * left - n) 1

/-- The symbols with a code of a given length, among the lengths of all symbols in order; zero
stands for none. -/
def withLength (lengths : List Nat) (length : Nat) : List Nat :=
  (lengths.zipIdx.filter fun entry => entry.1 = length).map (·.2)

/-- The code of the lengths of all symbols in order; a length of zero stands for no code. All codes
must be in use, with two exceptions: there may be no codes at all, and, if `mayBeSingle` says so,
only one code of one bit. -/
def ofLengths? (mayBeSingle : Bool) (lengths : List Nat) : Option PrefixCode :=
  let longest := lengths.foldl Nat.max 0
  if longest = 0 then some { counts := [0], symbols := #[] }
  else
    let groups := (List.range longest).map fun i => withLength lengths (i + 1)
    let counts := groups.map List.length
    if room counts = 0 ∨ (0 < room counts ∧ mayBeSingle = true ∧ longest = 1) then
      some { counts, symbols := groups.flatten.toArray }
    else none

/-- The symbol of the code at a place, when the bits before make up `code`, which is at least
`first`, and so do the codes of the lengths that are left begin there; `index` is the number of
symbols with shorter codes. -/
def readFrom (symbols : Array Nat) (code first index : Nat) :
    (counts : List Nat) → Bits → Except ReadingStop (Option Nat × Bits)
  | [], s => .ok (none, s)
  | count :: counts, s => do
    let (b, s) ← s.next
    let code := 2 * code + b.toNat
    let first := 2 * first
    if code < first + count then return (symbols[index + (code - first)]?, s)
    else readFrom symbols code (first + count) (index + count) counts s

/-- The next symbol; codes that are not in use have none. -/
def read (c : PrefixCode) (s : Bits) : Except ReadingStop (Option Nat × Bits) :=
  readFrom c.symbols 0 0 0 c.counts s

end PrefixCode

end Courier
