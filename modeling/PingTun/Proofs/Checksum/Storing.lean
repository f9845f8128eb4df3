-- SUMMARY: A buffer in which its checksum is stored has the checksum zero, however long it is.
import PingTun.Proofs.Checksum.Sums

/-! # Storing the checksum

The checksum is what a sum lacks to a multiple of 65535. A sum that has already wrapped still lacks
so little that adding the checksum does not make it wrap once more: the accumulator's greatest value
is such a multiple itself.
-/

namespace PingTun

/-! ## Words in buffers -/

/-- Write a word over two bytes of a buffer, in network order. -/
def Bytes.store (bytes : List UInt8) (offset : Nat) (word : UInt16) : List UInt8 :=
  (bytes.set offset (word >>> 8).toUInt8).set (offset + 1) word.toUInt8

namespace Checksum

variable {bytes : List UInt8} {position : Nat}

@[simp] theorem length_store (offset : Nat) (word : UInt16) :
    (Bytes.store bytes offset word).length = bytes.length := by
  simp [Bytes.store]

theorem wordAt_store_self (h : 2 * position + 1 < bytes.length) (word : UInt16) :
    wordAt (Bytes.store bytes (2 * position) word) position = word.toNat := by
  have hword := Bytes.toNat_toWord (word >>> 8).toUInt8 word.toUInt8
  have hhigh : (Bytes.store bytes (2 * position) word)[2 * position]? =
      some (word >>> 8).toUInt8 := by
    rw [Bytes.store, List.getElem?_set_ne (Nat.succ_ne_self _),
      List.getElem?_set_self (Nat.lt_of_succ_lt h)]
  have hlow : (Bytes.store bytes (2 * position) word)[2 * position + 1]? = some word.toUInt8 :=
    List.getElem?_set_self (by rwa [List.length_set])
  rw [wordAt, List.getD_eq_getElem?_getD, List.getD_eq_getElem?_getD, hhigh, hlow,
    Option.getD_some, Option.getD_some, Nat.mul_comm, ← hword, Bytes.toWord_ofWord]

theorem wordAt_store_of_ne {other : Nat} (h : other ≠ position) (word : UInt16) :
    wordAt (Bytes.store bytes (2 * position) word) other = wordAt bytes other := by
  have hoffset {offset : Nat} (hhigh : 2 * position ≠ offset) (hlow : 2 * position + 1 ≠ offset) :
      (Bytes.store bytes (2 * position) word)[offset]? = bytes[offset]? := by
    rw [Bytes.store, List.getElem?_set_ne hlow, List.getElem?_set_ne hhigh]
  simp only [wordAt, List.getD_eq_getElem?_getD]
  rw [hoffset (by omega) (by omega), hoffset (by omega) (by omega)]

/-- A word written over a blank one adds to the sum. -/
theorem wordSum_store (hroom : 2 * position + 1 < bytes.length) (hblank : wordAt bytes position = 0)
    (word : UInt16) :
    wordSum (Bytes.store bytes (2 * position) word) = wordSum bytes + word.toNat := by
  have hother (other : Nat) (h : other ≠ position) :
      wordAt (Bytes.store bytes (2 * position) word) other = wordAt bytes other :=
    wordAt_store_of_ne h word
  have hsum := wordSum_add_wordAt (length_store ..) hother
  rwa [hblank, Nat.add_zero, wordAt_store_self hroom] at hsum

/-! ## The checksum in its place -/

/-- The accumulator's greatest value is 65535 * 65537, so the next multiple of 65535 has room. -/
theorem add_complement_lt {sum : Nat} (h : sum < 2 ^ 32) :
    sum + (65535 - residue sum) < 2 ^ 32 := by
  unfold residue
  split
  · omega
  · omega

/-- A buffer that adds up to as much as another one and its checksum has the checksum zero. -/
theorem internet_of_wordSum {blank stored : List UInt8}
    (h : wordSum stored = wordSum blank + (internet blank).toNat) : internet stored = 0 := by
  apply UInt16.toNat.inj
  have hwrapped : wordSum blank % 2 ^ 32 < 2 ^ 32 := Nat.mod_lt _ (by decide)
  have hsum : wordSum stored % 2 ^ 32 =
      wordSum blank % 2 ^ 32 + (65535 - residue (wordSum blank % 2 ^ 32)) := by
    rw [h, toNat_internet, ← Nat.mod_add_mod, Nat.mod_eq_of_lt (add_complement_lt hwrapped)]
  rw [toNat_internet, hsum, residue_add_complement]
  rfl

/-- Wherever two bytes at an even offset of a buffer are zero, storing its checksum there makes its
checksum zero. -/
theorem internet_store {offset : Nat} (heven : offset % 2 = 0) (hhigh : bytes[offset]? = some 0)
    (hlow : bytes[offset + 1]? = some 0) :
    internet (Bytes.store bytes offset (internet bytes)) = 0 := by
  obtain ⟨position, rfl⟩ : ∃ position, offset = 2 * position := ⟨offset / 2, by omega⟩
  obtain ⟨hroom, -⟩ := List.getElem?_eq_some_iff.mp hlow
  have hblank : wordAt bytes position = 0 := by
    simp [wordAt, hhigh, hlow]
  exact internet_of_wordSum (wordSum_store hroom hblank _)

/-- The sum of this buffer wraps before its checksum is stored at its end. -/
theorem internet_store_wrapped :
    let bytes : List UInt8 := List.replicate 131076 255 ++ [0, 0, 7]
    131076 % 2 = 0 ∧ bytes[131076]? = some 0 ∧ bytes[131076 + 1]? = some 0 ∧
      internet (Bytes.store bytes 131076 (internet bytes)) = 0 := by
  intro bytes
  have hhigh : bytes[131076]? = some 0 := by
    rw [List.getElem?_append_right (by rw [List.length_replicate]), List.length_replicate]
    rfl
  have hlow : bytes[131076 + 1]? = some 0 := by
    rw [List.getElem?_append_right (by rw [List.length_replicate]; decide), List.length_replicate]
    rfl
  exact ⟨rfl, hhigh, hlow, internet_store rfl hhigh hlow⟩

end Checksum

end PingTun
