-- SUMMARY: Words as bytes, most or least significant byte first.

/-! # Words as bytes

Network order puts the most significant byte first; the timestamps inside echo payloads put the
least significant byte first.
-/

namespace PingTun.Bytes

/-! ## Network order -/

/-- A 16-bit word in network order. -/
def ofWord (w : UInt16) : List UInt8 := [(w >>> 8).toUInt8, w.toUInt8]

/-- The 16-bit word whose bytes in network order are `high` and `low`. -/
def toWord (high low : UInt8) : UInt16 := high.toUInt16 * 256 + low.toUInt16

@[simp] theorem length_ofWord (w : UInt16) : (ofWord w).length = 2 := rfl

theorem toNat_toWord (high low : UInt8) :
    (toWord high low).toNat = high.toNat * 256 + low.toNat := by
  have hhigh := high.toNat_lt
  have hlow := low.toNat_lt
  simp only [toWord, UInt16.toNat_add, UInt16.toNat_mul, UInt8.toNat_toUInt16,
    UInt16.reduceToNat]
  omega

theorem toWord_ofWord (w : UInt16) : toWord (w >>> 8).toUInt8 w.toUInt8 = w := by
  apply UInt16.toNat.inj
  have hw := w.toNat_lt
  rw [toNat_toWord]
  simp only [UInt16.toNat_toUInt8, UInt16.toNat_shiftRight, UInt16.reduceToNat, Nat.reduceMod,
    Nat.shiftRight_eq_div_pow, Nat.reducePow]
  omega

/-! ## Least significant byte first -/

/-- A 64-bit number, least significant byte first. -/
def littleEndian (n : UInt64) : List UInt8 :=
  (List.range 8).map fun i => (n.toNat >>> (8 * i)).toUInt8

@[simp] theorem length_littleEndian (n : UInt64) : (littleEndian n).length = 8 := by
  simp [littleEndian]

end PingTun.Bytes
