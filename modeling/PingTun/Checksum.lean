-- SUMMARY: The internet checksum: in 32-bit words that wrap, and over unbounded numbers.

/-! # The internet checksum

The ones' complement of the ones' complement sum of a buffer's 16-bit words in network order, an
odd last byte being padded with a zero byte. `internet` sums in a 32-bit accumulator that wraps
and folds it twice; `onesComplement` is the same number by arithmetic modulo 65535, for buffers
of any length.
-/

namespace PingTun.Checksum

/-- The words of a buffer in network order. -/
def words : List UInt8 → List Nat
  | [] => []
  | [b] => [b.toNat * 256]
  | high :: low :: rest => (high.toNat * 256 + low.toNat) :: words rest

/-! ## The wrapping sum -/

/-- The sum of a buffer's words in a 32-bit accumulator that wraps. -/
def accumulate (bytes : List UInt8) : UInt32 :=
  (words bytes).foldl (fun sum word => sum + word.toUInt32) 0

/-- Add the carries of a sum to its lower half. -/
def fold (sum : UInt32) : UInt32 := sum % 65536 + sum / 65536

/-- The checksum of a buffer, zero if the buffer already holds its correct checksum. -/
def internet (bytes : List UInt8) : UInt16 := ~~~(fold (fold (accumulate bytes))).toUInt16

/-! ## The unbounded sum -/

def wordSum (bytes : List UInt8) : Nat := (words bytes).foldr (· + ·) 0

/-- The representative from 1 to 65535 of a sum modulo 65535, zero only for an empty sum. -/
def residue (sum : Nat) : Nat := if sum = 0 then 0 else (sum - 1) % 65535 + 1

/-- The checksum of RFC 1071 over unbounded numbers. -/
def onesComplement (bytes : List UInt8) : UInt16 := (65535 - residue (wordSum bytes)).toUInt16

end PingTun.Checksum
