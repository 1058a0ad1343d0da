/-!
Data that is read bit by bit.

Within a byte the lowest bit comes first, and so it does in a number of several bits. Reading stops
when the data ends too early or turns out to be wrong.
-/

namespace Courier

/-- What is wrong with compressed data. -/
inductive CodingFault
  | header
  | method
  | flags
  | headerSum
  | window
  /-- The data depends on a dictionary that is not at hand. -/
  | dictionary
  | blockKind
  | storedLength
  | tooManySymbols
  | lengthCodes
  | repetition
  | noEnd
  | literalCodes
  | distanceCodes
  | literal
  | distance
  /-- A repeated stretch begins before the data. -/
  | tooFarBack
  | sum
  | length
deriving DecidableEq

namespace CodingFault

/-- What is said about a fault. -/
def message : CodingFault → String
  | .header => "incorrect header check"
  | .method => "unknown compression method"
  | .flags => "unknown header flags set"
  | .headerSum => "header crc mismatch"
  | .window => "invalid window size"
  | .dictionary => "need dictionary"
  | .blockKind => "invalid block type"
  | .storedLength => "invalid stored block lengths"
  | .tooManySymbols => "too many length or distance symbols"
  | .lengthCodes => "invalid code lengths set"
  | .repetition => "invalid bit length repeat"
  | .noEnd => "invalid code -- missing end-of-block"
  | .literalCodes => "invalid literal/lengths set"
  | .distanceCodes => "invalid distances set"
  | .literal => "invalid literal/length code"
  | .distance => "invalid distance code"
  | .tooFarBack => "invalid distance too far back"
  | .sum => "incorrect data check"
  | .length => "incorrect length check"

end CodingFault

/-- Why reading stops before the end. -/
inductive ReadingStop
  /-- The data ends too early. -/
  | exhausted
  | fault (fault : CodingFault)
deriving DecidableEq

/-- Data with a place between two bits. -/
structure Bits where
  /-- What is left of the byte in which the place is, the lowest bit first. -/
  pending : List Bool := []
  bytes : List UInt8

namespace Bits

/-- The bits of a byte. -/
def ofByte (b : UInt8) : List Bool := (List.range 8).map b.toNat.testBit

/-- How many bits are left. -/
def count (s : Bits) : Nat := s.pending.length + 8 * s.bytes.length

/-- The next bit. -/
def next (s : Bits) : Except ReadingStop (Bool × Bits) :=
  match s.pending, s.bytes with
  | b :: pending, bytes => .ok (b, ⟨pending, bytes⟩)
  | [], byte :: bytes => .ok (byte.toNat.testBit 0, ⟨(ofByte byte).tail, bytes⟩)
  | [], [] => .error .exhausted

/-- The next bits as a number. -/
def take : (width : Nat) → Bits → Except ReadingStop (Nat × Bits)
  | 0, s => .ok (0, s)
  | width + 1, s => do
    let (b, s) ← s.next
    let (n, s) ← take width s
    return (b.toNat + 2 * n, s)

/-- The data from the next byte on. -/
def align (s : Bits) : Bits := { s with pending := [] }

/-- Every bit that is read is one less that is left. -/
theorem count_of_next {s rest : Bits} {b : Bool} (h : s.next = .ok (b, rest)) :
    s.count = rest.count + 1 := by
  obtain ⟨pending, bytes⟩ := s
  cases pending with
  | cons c pending =>
    simp only [next, Except.ok.injEq, Prod.mk.injEq] at h
    obtain ⟨-, rfl⟩ := h
    simp only [count, List.length_cons]
    omega
  | nil =>
    cases bytes with
    | nil => simp [next] at h
    | cons byte bytes =>
      simp only [next, Except.ok.injEq, Prod.mk.injEq] at h
      obtain ⟨-, rfl⟩ := h
      simp only [count, ofByte, List.length_nil, List.length_cons, List.length_tail,
        List.length_map, List.length_range]
      omega

end Bits

end Courier
