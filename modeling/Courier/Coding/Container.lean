import Courier.Coding.Checksum
import Courier.Coding.Inflate

/-!
The codings of a body.

Compressed data comes with a header before it and checksums after it, of which there are two kinds;
one of the codings may also come without them. Data that ends too early is decoded as far as it
goes, and what follows the end is left out.
-/

namespace Courier

/-- The codings of a body. -/
inductive Coding
  | gzip
  | deflate
deriving DecidableEq

namespace Coding

/-- The first bytes, or nothing if there are not as many. -/
def cut (n : Nat) (bytes : List UInt8) : Except ReadingStop (List UInt8 × List UInt8) :=
  if bytes.length < n then .error .exhausted else .ok (bytes.splitAt n)

/-- The number of bytes of which the lowest comes first. -/
def lowFirst : List UInt8 → Nat
  | [] => 0
  | b :: bytes => b.toNat + 0x100 * lowFirst bytes

/-- The number of bytes of which the highest comes first. -/
def highFirst (bytes : List UInt8) : Nat := lowFirst bytes.reverse

/-- The bytes after a text that a zero ends. -/
def skipText : List UInt8 → Except ReadingStop (List UInt8)
  | [] => .error .exhausted
  | b :: bytes => if b = 0 then .ok bytes else skipText bytes

/-- The bytes after a header with a checksum: it tells the coding and has optional parts. -/
def skipHeader (all : List UInt8) : Except ReadingStop (List UInt8) := do
  let (magic, bytes) ← cut 2 all
  if magic ≠ [0x1F, 0x8B] then throw (.fault .header)
  let (start, bytes) ← cut 2 bytes
  let flags := (start[1]?.getD 0).toNat
  if start[0]? ≠ some 8 then throw (.fault .method)
  if 0x20 ≤ flags then throw (.fault .flags)
  let (_, bytes) ← cut 6 bytes
  let bytes ← if flags.testBit 2 then do
      let (length, bytes) ← cut 2 bytes
      let (_, bytes) ← cut (lowFirst length) bytes
      pure bytes
    else pure bytes
  let bytes ← if flags.testBit 3 then skipText bytes else pure bytes
  let bytes ← if flags.testBit 4 then skipText bytes else pure bytes
  if flags.testBit 1 then do
    let (sum, rest) ← cut 2 bytes
    let read := all.take (all.length - bytes.length)
    if lowFirst sum = (Checksum.crc32 read).toNat % 0x10000 then return rest
    else throw (.fault .headerSum)
  else return bytes

/-- Checks the sums after data. -/
def checkSums (found : Array UInt8) (bytes : List UInt8) : Except ReadingStop Unit := do
  let (sum, bytes) ← cut 4 bytes
  if lowFirst sum ≠ (Checksum.crc32 found.toList).toNat then throw (.fault .sum)
  let (length, _) ← cut 4 bytes
  if lowFirst length ≠ found.size % 0x100000000 then throw (.fault .length)

/-- The bytes after a short header, which tells the coding. -/
def skipShortHeader (bytes : List UInt8) : Except ReadingStop (List UInt8) := do
  let (start, bytes) ← cut 2 bytes
  let method := (start[0]?.getD 0).toNat
  if highFirst start % 31 ≠ 0 then throw (.fault .header)
  if method % 16 ≠ 8 then throw (.fault .method)
  if 0x80 ≤ method then throw (.fault .window)
  if (highFirst start).testBit 5 then do
    let _ ← cut 4 bytes
    throw (.fault .dictionary)
  else return bytes

/-- Checks the sum after data with a short header. -/
def checkSum (found : Array UInt8) (bytes : List UInt8) : Except ReadingStop Unit := do
  let (sum, _) ← cut 4 bytes
  if highFirst sum ≠ Checksum.adler32 found.toList then throw (.fault .sum)

/-- Decodes data between a header and checksums. -/
def decodeBetween (header : List UInt8 → Except ReadingStop (List UInt8))
    (sums : Array UInt8 → List UInt8 → Except ReadingStop Unit) (bytes : List UInt8) :
    Inflate.Progress Unit :=
  match header bytes with
  | .error stop => (#[], .error stop)
  | .ok bytes =>
    match Inflate.decode bytes with
    | (found, .error stop) => (found, .error stop)
    | (found, .ok bytes) => (found, sums found bytes)

/-- What was decoded, unless there was a fault. -/
def finish : Inflate.Progress Unit → Except CodingFault (List UInt8)
  | (_, .error (.fault fault)) => .error fault
  | (found, _) => .ok found.toList

/-- Decodes data. Data that does not suit the short header has none. -/
def decode : Coding → List UInt8 → Except CodingFault (List UInt8)
  | .gzip, bytes => finish (decodeBetween skipHeader checkSums bytes)
  | .deflate, bytes =>
    match finish (decodeBetween skipShortHeader checkSum bytes) with
    | .ok found => .ok found
    | .error _ => finish (decodeBetween .ok (fun _ _ => .ok ()) bytes)

/-- Decodes data to which several codings were applied in order. -/
def decodeAll (codings : List Coding) (bytes : List UInt8) : Except CodingFault (List UInt8) :=
  codings.reverse.foldlM (fun bytes coding => coding.decode bytes) bytes

end Coding

end Courier
