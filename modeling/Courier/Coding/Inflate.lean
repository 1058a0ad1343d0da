import Courier.Coding.Code

/-!
Compressed blocks.

Compressed data consists of blocks, the last of which is marked. A block holds bytes as they are, or
symbols in prefix codes: a symbol stands for a byte, for the end of the block, or for the length of
a stretch that is repeated from an earlier place, whose distance follows. The codes are fixed ones,
or described at the beginning of the block. Whatever was read before the data ended too early is
kept.
-/

namespace Courier

namespace Inflate

/-- Decoded bytes, and how decoding went on. -/
abbrev Progress (α : Type) := Array UInt8 × Except ReadingStop α

/-! ## Symbols -/

/-- The least length of a stretch for each symbol from 257 on, and how many bits tell how much
longer it is. -/
def lengthBases : List (Nat × Nat) := [
  (3, 0), (4, 0), (5, 0), (6, 0), (7, 0), (8, 0), (9, 0), (10, 0), (11, 1), (13, 1), (15, 1),
  (17, 1), (19, 2), (23, 2), (27, 2), (31, 2), (35, 3), (43, 3), (51, 3), (59, 3), (67, 4), (83, 4),
  (99, 4), (115, 4), (131, 5), (163, 5), (195, 5), (227, 5), (258, 0)]

/-- The least distance for each symbol, and how many bits tell how much farther it is. -/
def distanceBases : List (Nat × Nat) := [
  (1, 0), (2, 0), (3, 0), (4, 0), (5, 1), (7, 1), (9, 2), (13, 2), (17, 3), (25, 3), (33, 4),
  (49, 4), (65, 5), (97, 5), (129, 6), (193, 6), (257, 7), (385, 7), (513, 8), (769, 8), (1025, 9),
  (1537, 9), (2049, 10), (3073, 10), (4097, 11), (6145, 11), (8193, 12), (12289, 12), (16385, 13),
  (24577, 13)]

/-- The number of a symbol that stands for a range of numbers. -/
def ranged (bases : List (Nat × Nat)) (fault : CodingFault) (symbol : Nat) (s : Bits) :
    Except ReadingStop (Nat × Bits) :=
  match bases[symbol]? with
  | none => .error (.fault fault)
  | some (base, width) => do
    let (more, s) ← s.take width
    return (base + more, s)

/-- The length and the distance of a stretch, from the symbol of its length on, when `size` bytes
come before it. -/
def stretch (distances : PrefixCode) (size symbol : Nat) (s : Bits) :
    Except ReadingStop ((Nat × Nat) × Bits) := do
  let (length, s) ← ranged lengthBases .literal (symbol - 257) s
  match ← distances.read s with
  | (none, _) => throw (.fault .distance)
  | (some symbol, s) =>
    let (distance, s) ← ranged distanceBases .distance symbol s
    if size < distance then throw (.fault .tooFarBack) else return ((length, distance), s)

/-- The bytes with a stretch of given length repeated from a given distance. It may extend into what
it repeats. -/
def repeated (distance : Nat) : (length : Nat) → Array UInt8 → Array UInt8
  | 0, found => found
  | length + 1, found =>
    repeated distance length (found.push ((found[found.size - distance]?).getD 0))

/-- The symbols of a block, after the bytes found so far. There are no more symbols than bits. -/
def symbols (literals distances : PrefixCode) :
    (rounds : Nat) → Array UInt8 → Bits → Progress Bits
  | 0, found, _ => (found, .error .exhausted)
  | rounds + 1, found, s =>
    match literals.read s with
    | .error stop => (found, .error stop)
    | .ok (none, _) => (found, .error (.fault .literal))
    | .ok (some symbol, s) =>
      if symbol < 256 then symbols literals distances rounds (found.push (.ofNat symbol)) s
      else if symbol = 256 then (found, .ok s)
      else
        match stretch distances found.size symbol s with
        | .error stop => (found, .error stop)
        | .ok ((length, distance), s) =>
          symbols literals distances rounds (repeated distance length found) s

/-! ## Codes -/

/-- The order in which the lengths of the codes for lengths are given. -/
def lengthOrder : List Nat := [16, 17, 18, 0, 8, 7, 9, 6, 10, 5, 11, 4, 12, 3, 13, 2, 14, 1, 15]

/-- Numbers of three bits. -/
def threeBits : (count : Nat) → Bits → Except ReadingStop (List Nat × Bits)
  | 0, s => .ok ([], s)
  | count + 1, s => do
    let (n, s) ← s.take 3
    let (others, s) ← threeBits count s
    return (n :: others, s)

/-- The lengths of codes after those found so far (latest first), `total` in all: a symbol is a
length, or repeats the latest one or zero. There are no more symbols than lengths. -/
def lengths (code : PrefixCode) (total : Nat) :
    (rounds : Nat) → List Nat → Bits → Except ReadingStop (List Nat × Bits)
  | 0, found, s => .ok (found.reverse, s)
  | rounds + 1, found, s => do
    if total ≤ found.length then return (found.reverse, s)
    let (symbol, s) ← code.read s
    let symbol := symbol.getD 0
    if symbol < 16 then lengths code total rounds (symbol :: found) s
    else
      let (least, width, length?) :=
        if symbol = 16 then (3, 2, found.head?)
        else if symbol = 17 then (3, 3, some 0)
        else (11, 7, some 0)
      let (more, s) ← s.take width
      match length? with
      | none => throw (.fault .repetition)
      | some length =>
        if total < found.length + least + more then throw (.fault .repetition)
        else lengths code total rounds (List.replicate (least + more) length ++ found) s

/-- A code, or the fault that its lengths show. -/
def codeOr (fault : CodingFault) (mayBeSingle : Bool) (lengths : List Nat) :
    Except ReadingStop PrefixCode :=
  match PrefixCode.ofLengths? mayBeSingle lengths with
  | some code => .ok code
  | none => .error (.fault fault)

/-- The codes that are described at the beginning of a block: one for bytes, the end and lengths,
and one for distances. -/
def describedCodes (s : Bits) : Except ReadingStop ((PrefixCode × PrefixCode) × Bits) := do
  let (literals, s) ← s.take 5
  let (distances, s) ← s.take 5
  let (given, s) ← s.take 4
  let literals := literals + 257
  let distances := distances + 1
  if 286 < literals ∨ 30 < distances then throw (.fault .tooManySymbols)
  let (widths, s) ← threeBits (given + 4) s
  let widthOf := fun symbol =>
    (((lengthOrder.zip widths).find? fun entry => entry.1 = symbol).map (·.2)).getD 0
  let code ← codeOr .lengthCodes false ((List.range 19).map widthOf)
  let total := literals + distances
  let (found, s) ← lengths code total total [] s
  if found[256]? = some 0 then throw (.fault .noEnd)
  let literalCode ← codeOr .literalCodes true (found.take literals)
  let distanceCode ← codeOr .distanceCodes true (found.drop literals)
  return ((literalCode, distanceCode), s)

/-- The lengths of the fixed code for bytes, the end and lengths. -/
def fixedLengths : List Nat :=
  List.replicate 144 8 ++ List.replicate 112 9 ++ List.replicate 24 7 ++ List.replicate 8 8

/-- The fixed codes. -/
def fixedCodes : Except ReadingStop (PrefixCode × PrefixCode) := do
  let literals ← codeOr .literalCodes true fixedLengths
  let distances ← codeOr .distanceCodes true (List.replicate 32 5)
  return (literals, distances)

/-! ## Blocks -/

/-- The length of the bytes that are stored in a block as they are; it is given twice, the second
time with all bits turned around. -/
def storedLength (s : Bits) : Except ReadingStop (Nat × Bits) := do
  let (length, s) ← s.align.take 16
  let (check, s) ← s.take 16
  if length + check = 0xFFFF then return (length, s) else throw (.fault .storedLength)

/-- A block of bytes as they are. -/
def stored (found : Array UInt8) (s : Bits) : Progress Bits :=
  match storedLength s with
  | .error stop => (found, .error stop)
  | .ok (length, s) =>
    (found ++ s.bytes.take length,
      if s.bytes.length < length then .error .exhausted
      else .ok { s with bytes := s.bytes.drop length })

/-- A block of symbols. -/
def coded (found : Array UInt8) :
    Except ReadingStop ((PrefixCode × PrefixCode) × Bits) → Progress Bits
  | .error stop => (found, .error stop)
  | .ok ((literals, distances), s) => symbols literals distances (s.count + 1) found s

/-- A block of the kind that a number of two bits tells. -/
def block (kind : Nat) (found : Array UInt8) (s : Bits) : Progress Bits :=
  if kind = 0 then stored found s
  else if kind = 1 then coded found (fixedCodes.map (·, s))
  else if kind = 2 then coded found (describedCodes s)
  else (found, .error (.fault .blockKind))

/-- Whether the next block is the last one, and of which kind it is. -/
def blockHead (s : Bits) : Except ReadingStop ((Bool × Nat) × Bits) := do
  let (isLast, s) ← s.next
  let (kind, s) ← s.take 2
  return ((isLast, kind), s)

/-- The blocks of data, after the bytes found so far, and the data after them. There are no more
blocks than bits. -/
def blocks : (rounds : Nat) → Array UInt8 → Bits → Progress Bits
  | 0, found, _ => (found, .error .exhausted)
  | rounds + 1, found, s =>
    match blockHead s with
    | .error stop => (found, .error stop)
    | .ok ((isLast, kind), s) =>
      match block kind found s with
      | (found, .error stop) => (found, .error stop)
      | (found, .ok s) => if isLast then (found, .ok s) else blocks rounds found s

/-- The blocks at the beginning of bytes, and the bytes after them. -/
def decode (bytes : List UInt8) : Progress (List UInt8) :=
  let s : Bits := { bytes }
  let (found, result) := blocks (s.count + 1) #[] s
  (found, result.map (·.bytes))

end Inflate

end Courier
