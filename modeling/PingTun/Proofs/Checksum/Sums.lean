-- SUMMARY: Sums of words: what the wrapping checksum computes, and what buffers put together add up to.
import Mathlib.Algebra.BigOperators.Group.Finset.Basic
import PingTun.Bytes
import PingTun.Checksum

/-! # Sums of words

Two folds bring any 32-bit sum down to its residue, so the checksum over a wrapping accumulator is
the one over unbounded numbers as long as the accumulator does not wrap. Buffers of an even length
add up with what is put behind them. A sum of words is also one over their positions, and changes
with the word at one position by as much as the word does.
-/

namespace PingTun.Checksum

/-! ## Sums -/

theorem words_append {front : List UInt8} (heven : front.length % 2 = 0) (back : List UInt8) :
    words (front ++ back) = words front ++ words back := by
  fun_induction words front with
  | case1 => rfl
  | case2 b => cases heven
  | case3 high low rest ih =>
    simp only [List.length_cons] at heven
    have hrest := ih (by omega)
    rw [List.cons_append, List.cons_append, words, hrest, List.cons_append]

theorem wordSum_append {front : List UInt8} (heven : front.length % 2 = 0) (back : List UInt8) :
    wordSum (front ++ back) = wordSum front + wordSum back := by
  have hsum (l : List Nat) (n : Nat) : l.foldr (· + ·) n = l.foldr (· + ·) 0 + n := by
    induction l with
    | nil => exact (Nat.zero_add n).symm
    | cons word l ih => rw [List.foldr_cons, List.foldr_cons, ih, Nat.add_assoc]
  rw [wordSum, words_append heven, List.foldr_append, hsum]
  rfl

@[simp] theorem wordSum_cons_cons (high low : UInt8) (rest : List UInt8) :
    wordSum (high :: low :: rest) = high.toNat * 256 + low.toNat + wordSum rest := rfl

@[simp] theorem wordSum_ofWord (w : UInt16) (rest : List UInt8) :
    wordSum (Bytes.ofWord w ++ rest) = w.toNat + wordSum rest := by
  have hword := Bytes.toNat_toWord (w >>> 8).toUInt8 w.toUInt8
  rw [Bytes.toWord_ofWord] at hword
  rw [hword]
  rfl

/-- No word is greater than 65535. -/
theorem wordSum_le (bytes : List UInt8) : wordSum bytes ≤ 65535 * ((bytes.length + 1) / 2) := by
  unfold wordSum
  fun_induction words bytes with
  | case1 => exact Nat.le_refl 0
  | case2 b =>
    have hb := b.toNat_lt
    simp only [List.foldr_cons, List.foldr_nil, List.length_cons, List.length_nil]
    omega
  | case3 high low rest ih =>
    have hhigh := high.toNat_lt
    have hlow := low.toNat_lt
    simp only [List.foldr_cons, List.length_cons]
    omega

/-- A buffer adds up to zero exactly if it holds nothing but zeros. -/
theorem wordSum_eq_zero_iff {bytes : List UInt8} :
    wordSum bytes = 0 ↔ ∀ byte ∈ bytes, byte = 0 := by
  unfold wordSum
  fun_induction words bytes with
  | case1 => simp
  | case2 b =>
    rw [List.foldr_cons, List.foldr_nil, List.forall_mem_singleton, ← UInt8.toNat_inj]
    simp only [UInt8.reduceToNat]
    omega
  | case3 high low rest ih =>
    rw [List.foldr_cons, List.forall_mem_cons, List.forall_mem_cons, ← ih, ← UInt8.toNat_inj,
      ← UInt8.toNat_inj]
    simp only [UInt8.reduceToNat]
    omega

/-! ## Words by position -/

/-- The word at a position, which is counted in words. A byte behind the end is zero. -/
def wordAt (bytes : List UInt8) (position : Nat) : Nat :=
  256 * (bytes.getD (2 * position) 0).toNat + (bytes.getD (2 * position + 1) 0).toNat

theorem wordAt_of_le {bytes : List UInt8} {position : Nat} (h : bytes.length ≤ 2 * position) :
    wordAt bytes position = 0 := by
  simp only [wordAt, List.getD_eq_getElem?_getD, List.getElem?_eq_none h,
    List.getElem?_eq_none (Nat.le_succ_of_le h)]
  rfl

theorem wordSum_eq_sum (bytes : List UInt8) :
    wordSum bytes = ∑ position ∈ Finset.range ((bytes.length + 1) / 2), wordAt bytes position := by
  fun_induction words bytes with
  | case1 => rfl
  | case2 b => simp [wordSum, words, wordAt, Nat.mul_comm]
  | case3 high low rest ih =>
    have hlength : ((high :: low :: rest).length + 1) / 2 = (rest.length + 1) / 2 + 1 := by
      simp only [List.length_cons]
      omega
    have hfirst : wordAt (high :: low :: rest) 0 = high.toNat * 256 + low.toNat := by
      simp [wordAt, Nat.mul_comm]
    rw [wordSum_cons_cons, ih, hlength, Finset.sum_range_succ', hfirst, Nat.add_comm]
    rfl

/-- What another word at one position changes. -/
theorem wordSum_add_wordAt {bytes changed : List UInt8} {position : Nat}
    (hlength : changed.length = bytes.length)
    (hother : ∀ other, other ≠ position → wordAt changed other = wordAt bytes other) :
    wordSum changed + wordAt bytes position = wordSum bytes + wordAt changed position := by
  let positions := Finset.range ((bytes.length + 1) / 2)
  rw [wordSum_eq_sum, wordSum_eq_sum, hlength]
  by_cases hinside : position ∈ positions
  · have hrest := Finset.sum_congr rfl fun other (h : other ∈ positions.erase position) =>
      hother other (Finset.ne_of_mem_erase h)
    rw [← Finset.add_sum_erase positions (wordAt changed) hinside,
      ← Finset.add_sum_erase positions (wordAt bytes) hinside, hrest]
    ac_rfl
  · have hbehind : bytes.length ≤ 2 * position := by
      simp only [positions, Finset.mem_range] at hinside
      omega
    have hsame := Finset.sum_congr rfl fun other (h : other ∈ positions) =>
      hother other (ne_of_mem_of_not_mem h hinside)
    rw [wordAt_of_le hbehind, wordAt_of_le (hlength ▸ hbehind), hsame]

/-! ## The wrapping sum -/

theorem toNat_accumulate (bytes : List UInt8) :
    (accumulate bytes).toNat = wordSum bytes % 2 ^ 32 := by
  have hfold (l : List Nat) (sum : UInt32) :
      (l.foldl (fun sum word => sum + word.toUInt32) sum).toNat =
        (sum.toNat + l.foldr (· + ·) 0) % 2 ^ 32 := by
    induction l generalizing sum with
    | nil => exact (Nat.mod_eq_of_lt sum.toNat_lt).symm
    | cons word l ih =>
      rw [List.foldl_cons, List.foldr_cons, ih, UInt32.toNat_add, Nat.toUInt32, UInt32.toNat_ofNat']
      omega
  rw [accumulate, hfold]
  simp [wordSum]

theorem toNat_fold (sum : UInt32) : (fold sum).toNat = sum.toNat % 65536 + sum.toNat / 65536 := by
  have hlt := sum.toNat_lt
  rw [fold, UInt32.toNat_add, UInt32.toNat_mod, UInt32.toNat_div]
  simp only [UInt32.reduceToNat]
  omega

/-- Two folds are enough for any sum. -/
theorem toNat_fold_fold (sum : UInt32) : (fold (fold sum)).toNat = residue sum.toNat := by
  have hlt := sum.toNat_lt
  rw [toNat_fold, toNat_fold, residue]
  split
  · omega
  · omega

theorem residue_le (sum : Nat) : residue sum ≤ 65535 := by
  unfold residue
  split
  · omega
  · omega

theorem residue_of_ne {sum : Nat} (h : sum ≠ 0) : residue sum = (sum - 1) % 65535 + 1 := if_neg h

/-- A sum and its checksum fold to all ones. -/
theorem residue_add_complement (sum : Nat) : residue (sum + (65535 - residue sum)) = 65535 := by
  by_cases hzero : sum = 0
  · subst hzero
    rfl
  · rw [residue_of_ne (by omega), residue_of_ne hzero]
    omega

theorem toNat_onesComplement (bytes : List UInt8) :
    (onesComplement bytes).toNat = 65535 - residue (wordSum bytes) :=
  UInt16.toNat_ofNat_of_lt' (by simp only [UInt16.size]; omega)

theorem toNat_internet (bytes : List UInt8) :
    (internet bytes).toNat = 65535 - residue (wordSum bytes % 2 ^ 32) := by
  have hresidue := residue_le (wordSum bytes % 2 ^ 32)
  rw [internet, UInt16.toNat_not, UInt32.toNat_toUInt16, toNat_fold_fold, toNat_accumulate,
    UInt16.size]
  omega

/-- No sum of so few words makes the accumulator wrap. -/
theorem wordSum_lt {bytes : List UInt8} (h : bytes.length ≤ 131074) : wordSum bytes < 2 ^ 32 := by
  have hsum := wordSum_le bytes
  omega

/-- The checksums are the same for buffers that can not make the accumulator wrap. -/
theorem internet_eq_onesComplement {bytes : List UInt8} (h : bytes.length ≤ 131074) :
    internet bytes = onesComplement bytes := by
  apply UInt16.toNat.inj
  rw [toNat_internet, toNat_onesComplement, Nat.mod_eq_of_lt (wordSum_lt h)]

/-- A buffer holds its correct checksum if it adds up to a multiple of 65535 other than zero. -/
theorem onesComplement_eq_zero_iff {bytes : List UInt8} :
    onesComplement bytes = 0 ↔ wordSum bytes ≠ 0 ∧ wordSum bytes % 65535 = 0 := by
  rw [← UInt16.toNat_inj, toNat_onesComplement, residue]
  simp only [UInt16.reduceToNat]
  split
  · omega
  · omega

/-- What adds up still does so without its end exactly if the end adds up too, or to nothing. -/
theorem onesComplement_eq_zero_of_append {front back : List UInt8}
    (heven : front.length % 2 = 0) (hsome : wordSum front ≠ 0)
    (h : onesComplement (front ++ back) = 0) :
    onesComplement front = 0 ↔ wordSum back % 65535 = 0 := by
  rw [onesComplement_eq_zero_iff, wordSum_append heven] at h
  rw [onesComplement_eq_zero_iff]
  omega

end PingTun.Checksum
