-- SUMMARY: Up to which length the wrapping checksum is the one over unbounded numbers.
import Mathlib.Data.Nat.ModEq
import PingTun.Proofs.Checksum.Sums

/-! # The reference

RFC 1071 adds up the words of a buffer without a bound. The checksum adds them up in 32 bits, which
hold 65537 words of any value and not one byte more: up to 131074 bytes every addition is exact, and
for every greater length there is a buffer whose carry out of the accumulator is lost.
-/

namespace PingTun.Checksum

/-! ## The checksum of a sum -/

/-- The sum of a buffer's words, position by position. -/
def total (bytes : List UInt8) : Nat :=
  ∑ position ∈ Finset.range ((bytes.length + 1) / 2), wordAt bytes position

theorem total_eq (bytes : List UInt8) : total bytes = wordSum bytes := (wordSum_eq_sum bytes).symm

/-- The checksum that RFC 1071 gives to a sum. Among the numbers congruent to a sum, zero stands for
nothing but zero itself. -/
inductive Complements : Nat → Nat → Prop
  | zero : Complements 0 65535
  | residue {sum r : Nat} (nonzero : sum ≠ 0) (lower : 1 ≤ r) (upper : r ≤ 65535)
    (congruent : r ≡ sum [MOD 65535]) : Complements sum (65535 - r)

theorem complements_iff {sum checksum : Nat} :
    Complements sum checksum ↔ checksum = 65535 - residue sum := by
  constructor
  · intro h
    cases h with
    | zero => rfl
    | @residue _ r nonzero lower upper congruent =>
      rw [Nat.ModEq] at congruent
      rw [residue_of_ne nonzero]
      omega
  · rintro rfl
    by_cases hzero : sum = 0
    · subst hzero
      exact .zero
    · refine .residue hzero ?_ (residue_le sum) ?_
      · rw [residue_of_ne hzero]
        omega
      · rw [residue_of_ne hzero, Nat.ModEq]
        omega

/-! ## Checked arithmetic -/

/-- The sum of two numbers, if it has room. -/
def plus? (a b : UInt32) : Option UInt32 :=
  if a.toNat + b.toNat < 2 ^ 32 then some (a + b) else none

/-- The lower half of a number, if it is all of it. -/
def lowerHalf? (a : UInt32) : Option UInt16 :=
  if a.toNat < 2 ^ 16 then some a.toUInt16 else none

def accumulateChecked (bytes : List UInt8) : Option UInt32 :=
  (words bytes).foldlM (fun sum word => plus? sum word.toUInt32) 0

/-- The checksum with every addition and the cut to 16 bits checked. There is no result at all if
anything is lost. -/
def internetChecked (bytes : List UInt8) : Option UInt16 := do
  let sum ← accumulateChecked bytes
  let folded ← plus? (sum % 65536) (sum / 65536)
  let again ← plus? (folded % 65536) (folded / 65536)
  return ~~~(← lowerHalf? again)

theorem le_of_mem_words {bytes : List UInt8} {word : Nat} (h : word ∈ words bytes) :
    word ≤ 65535 := by
  fun_induction words bytes with
  | case1 => cases h
  | case2 b =>
    have hb := b.toNat_lt
    rw [List.mem_singleton] at h
    omega
  | case3 high low rest ih =>
    have hhigh := high.toNat_lt
    have hlow := low.toNat_lt
    rcases List.mem_cons.mp h with rfl | h
    · omega
    · exact ih h

/-- Additions are exact as long as there is room for what they add up to, and no longer. -/
theorem foldlM_plus? {l : List Nat} (hl : ∀ word ∈ l, word ≤ 65535) (sum : UInt32) :
    l.foldlM (fun sum word => plus? sum word.toUInt32) sum =
      if sum.toNat + l.foldr (· + ·) 0 < 2 ^ 32 then
        some (l.foldl (fun sum word => sum + word.toUInt32) sum)
      else none := by
  induction l generalizing sum with
  | nil => exact (if_pos sum.toNat_lt).symm
  | cons word l ih =>
    obtain ⟨hword, hl⟩ := List.forall_mem_cons.mp hl
    have hexact : word.toUInt32.toNat = word := UInt32.toNat_ofNat_of_lt' (by
      simp only [UInt32.size]
      omega)
    rw [List.foldlM_cons, List.foldr_cons, List.foldl_cons, plus?, hexact]
    by_cases hroom : sum.toNat + word < 2 ^ 32
    · have hsum : (sum + word.toUInt32).toNat = sum.toNat + word := by
        rw [UInt32.toNat_add, hexact, Nat.mod_eq_of_lt hroom]
      rw [if_pos hroom, Option.bind_eq_bind, Option.bind_some, ih hl, hsum, Nat.add_assoc]
    · rw [if_neg hroom, if_neg (by omega)]
      rfl

theorem accumulateChecked_eq (bytes : List UInt8) :
    accumulateChecked bytes =
      if wordSum bytes < 2 ^ 32 then some (accumulate bytes) else none := by
  rw [accumulateChecked, foldlM_plus? (fun _ => le_of_mem_words), UInt32.toNat_zero, Nat.zero_add]
  rfl

/-- Adding the carries to the lower half never needs a carry itself. -/
theorem plus?_carries (sum : UInt32) : plus? (sum % 65536) (sum / 65536) = some (fold sum) := by
  have hlt := sum.toNat_lt
  refine if_pos ?_
  rw [UInt32.toNat_mod, UInt32.toNat_div]
  simp only [UInt32.reduceToNat]
  omega

/-- Nothing but the additions of words can lose anything. -/
theorem internetChecked_eq (bytes : List UInt8) :
    internetChecked bytes = if wordSum bytes < 2 ^ 32 then some (internet bytes) else none := by
  rw [internetChecked, accumulateChecked_eq]
  split
  · have hresidue := residue_le (accumulate bytes).toNat
    have hhalf : lowerHalf? (fold (fold (accumulate bytes))) =
        some (fold (fold (accumulate bytes))).toUInt16 := by
      refine if_pos ?_
      rw [toNat_fold_fold]
      omega
    simp only [Option.bind_eq_bind, Option.bind_some, plus?_carries, hhalf]
    rfl
  · rfl

/-! ## Beyond the bound -/

/-- A buffer whose sum is greater than the accumulator holds: 65537 words of the greatest value, and
a byte behind them. -/
def overflowing (zeros : Nat) : List UInt8 :=
  List.replicate 131074 255 ++ 1 :: List.replicate zeros 0

theorem wordSum_replicate (byte : UInt8) (count : Nat) :
    wordSum (List.replicate (2 * count) byte) = count * (byte.toNat * 256 + byte.toNat) := by
  induction count with
  | zero => exact (Nat.zero_mul _).symm
  | succ count ih =>
    rw [Nat.mul_succ, List.replicate_succ, List.replicate_succ, wordSum_cons_cons, ih,
      Nat.succ_mul count, Nat.add_comm]

theorem wordSum_overflowing (zeros : Nat) : wordSum (overflowing zeros) = 2 ^ 32 + 255 := by
  have hback : wordSum (1 :: List.replicate zeros 0) = 256 := by
    cases zeros with
    | zero => rfl
    | succ zeros =>
      have hzeros : wordSum (List.replicate zeros 0) = 0 :=
        wordSum_eq_zero_iff.mpr fun _ hbyte => (List.mem_replicate.mp hbyte).2
      rw [List.replicate_succ, wordSum_cons_cons, hzeros]
      rfl
  have hfront : wordSum (List.replicate 131074 255) = 2 ^ 32 - 1 := wordSum_replicate 255 65537
  rw [overflowing, wordSum_append (by rw [List.length_replicate]), hfront, hback]
  rfl

/-- Up to 131074 bytes the checksum is the one over unbounded numbers, and nothing is lost on the
way. That is as far as it goes: for every greater length there is a buffer for which it is
another. -/
theorem internet_complements :
    (∀ bytes : List UInt8, bytes.length ≤ 131074 →
      internetChecked bytes = some (internet bytes) ∧
      ∀ checksum, (internet bytes).toNat = checksum ↔ Complements (total bytes) checksum) ∧
    ∀ length, 131074 < length → ∃ bytes : List UInt8, bytes.length = length ∧
      internetChecked bytes = none ∧ ¬ Complements (total bytes) (internet bytes).toNat := by
  constructor
  · intro bytes hlength
    have hroom := wordSum_lt hlength
    refine ⟨by rw [internetChecked_eq, if_pos hroom], fun checksum => ?_⟩
    rw [complements_iff, total_eq, toNat_internet, Nat.mod_eq_of_lt hroom]
    exact eq_comm
  · intro length hlength
    obtain ⟨zeros, rfl⟩ := Nat.exists_eq_add_of_lt hlength
    refine ⟨overflowing zeros, ?_, ?_, ?_⟩
    · rw [overflowing, List.length_append, List.length_cons, List.length_replicate,
        List.length_replicate]
      omega
    · rw [internetChecked_eq, wordSum_overflowing, if_neg (by decide)]
    · rw [complements_iff, total_eq, toNat_internet, wordSum_overflowing]
      decide

end PingTun.Checksum
