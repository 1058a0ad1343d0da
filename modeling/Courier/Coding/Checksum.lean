/-!
Checksums.

Two sums guard compressed data: a remainder of polynomials over two elements, and a pair of sums
modulo the largest prime below two to the 16th.
-/

namespace Courier

namespace Checksum

/-- The polynomial, the highest coefficient in the lowest bit. -/
def polynomial : UInt32 := 0xEDB88320

/-- A remainder after one more bit. -/
def divideBit (remainder : UInt32) : UInt32 :=
  if remainder &&& 1 = 1 then (remainder >>> 1) ^^^ polynomial else remainder >>> 1

/-- A remainder after one more byte. -/
def divideByte (remainder : UInt32) (b : UInt8) : UInt32 :=
  (List.range 8).foldl (fun r _ => divideBit r) (remainder ^^^ b.toUInt32)

/-- The remainder of bytes. -/
def crc32 (bytes : List UInt8) : UInt32 :=
  bytes.foldl divideByte 0xFFFFFFFF ^^^ 0xFFFFFFFF

/-- The prime. -/
def prime : Nat := 65521

/-- The pair of sums of bytes in one number: the sum of the bytes, and above it that of all sums on
the way. -/
def adler32 (bytes : List UInt8) : Nat :=
  let (low, high) := bytes.foldl (fun (sums : Nat × Nat) b =>
    let low := (sums.1 + b.toNat) % prime
    (low, (sums.2 + low) % prime)) (1, 0)
  high * 0x10000 + low

end Checksum

end Courier
