-- SUMMARY: Scanners of JSON numbers: their value, or only their extent.
import PingTun.Json.Scan

/-! # Numbers

An integer that fits into 64 bits is read exactly. Every other number is read as binary64, from at
most so many of its leading digits as fit into 64 bits and a power of ten.
-/

namespace PingTun.Json

/-! ## Digits -/

/-- The greatest significand that is kept. -/
def greatestSignificand : Nat := UInt64.size - 1

/-- The greatest exponent that is kept. -/
def greatestExponent : Nat := UInt32.size / 2 - 1

def digitValue (b : UInt8) : Nat := b.toNat - 0x30

/-- Extend a number by the digits in front of the bytes, up to the first one with which it would
exceed `bound`. -/
def takeDigits (bound : Nat) (n : Nat) : List UInt8 → Nat × List UInt8
  | [] => (n, [])
  | byte :: rest =>
    if Byte.isDigit byte ∧ n * 10 + digitValue byte ≤ bound then
      takeDigits bound (n * 10 + digitValue byte) rest
    else
      (n, byte :: rest)

def skipDigits (bytes : List UInt8) : List UInt8 := bytes.dropWhile Byte.isDigit

def startsWithDigit : List UInt8 → Bool
  | [] => false
  | byte :: _ => Byte.isDigit byte

theorem length_takeDigits_le (bound n : Nat) (bytes : List UInt8) :
    (takeDigits bound n bytes).2.length ≤ bytes.length := by
  induction bytes generalizing n with
  | nil => simp [takeDigits]
  | cons byte bytes ih =>
    simp only [takeDigits]
    split
    · exact Nat.le_succ_of_le (ih _)
    · simp

theorem length_skipDigits_le (bytes : List UInt8) : (skipDigits bytes).length ≤ bytes.length :=
  (List.dropWhile_sublist _).length_le

/-! ## Values -/

/-- The exponent kept within 32 signed bits. -/
def clampExponent (e : Int) : Int :=
  max (-(greatestExponent : Int) - 1) (min greatestExponent e)

/-- The binary64 number of a significand and a power of ten. -/
def floatOf (isNegative : Bool) (significand : Nat) (exponent : Int) (rest : List UInt8) :
    Except Fault (Number × List UInt8) :=
  match Decimal.Binary64.ofDecimal? significand exponent with
  | some magnitude => .ok (.float isNegative magnitude, rest)
  | none => .error (.looking .numberTooLarge rest)

/-- The exponent of a number, behind its first digit `first`. -/
def scanExponentDigits (isNegative : Bool) (significand : Nat) (exponent : Int)
    (isUpward : Bool) (first : Nat) (bytes : List UInt8) : Except Fault (Number × List UInt8) :=
  let (n, rest) := takeDigits greatestExponent first bytes
  if startsWithDigit rest then
    if significand ≠ 0 ∧ isUpward then .error (.before .numberTooLarge rest.tail)
    else .ok (.float isNegative .zero, skipDigits rest)
  else
    let change : Int := if isUpward then n else -n
    floatOf isNegative significand (clampExponent (exponent + change)) rest

/-- The exponent of a number, behind its sign. -/
def scanUnsignedExponent (isNegative : Bool) (significand : Nat) (exponent : Int)
    (isUpward : Bool) : List UInt8 → Except Fault (Number × List UInt8)
  | [] => .error (.looking .endInValue [])
  | byte :: rest =>
    if Byte.isDigit byte then
      scanExponentDigits isNegative significand exponent isUpward (digitValue byte) rest
    else
      .error (.before .invalidNumber rest)

/-- The exponent of a number, behind its mark. -/
def scanExponent (isNegative : Bool) (significand : Nat) (exponent : Int) :
    List UInt8 → Except Fault (Number × List UInt8)
  | [] => .error (.looking .endInValue [])
  | byte :: rest =>
    if byte = Byte.plus then scanUnsignedExponent isNegative significand exponent true rest
    else if byte = Byte.minus then scanUnsignedExponent isNegative significand exponent false rest
    else scanUnsignedExponent isNegative significand exponent true (byte :: rest)

/-- What follows the digits of a number that is not an integer. -/
def scanFloatEnd (isNegative : Bool) (significand : Nat) (exponent : Int) :
    List UInt8 → Except Fault (Number × List UInt8)
  | [] => floatOf isNegative significand exponent []
  | byte :: rest =>
    if Byte.isExponentMark byte then scanExponent isNegative significand exponent rest
    else floatOf isNegative significand exponent (byte :: rest)

/-- The fraction of a number, behind its point. Digits that do not fit are passed over. -/
def scanFraction (isNegative : Bool) (significand : Nat) (exponent : Int) (bytes : List UInt8) :
    Except Fault (Number × List UInt8) :=
  let (n, rest) := takeDigits greatestSignificand significand bytes
  let places := bytes.length - rest.length
  if startsWithDigit rest then
    scanFloatEnd isNegative n (exponent - places) (skipDigits rest)
  else if places = 0 then
    match rest with
    | [] => .error (.looking .endInValue [])
    | _ => .error (.looking .invalidNumber rest)
  else
    scanFloatEnd isNegative n (exponent - places) rest

/-- A number without fraction and exponent, of which `dropped` digits did not fit. The negative of
zero is no integer. -/
def integerOf (isNegative : Bool) (significand dropped : Nat) (rest : List UInt8) :
    Except Fault (Number × List UInt8) :=
  if 0 < dropped then floatOf isNegative significand dropped rest
  else if isNegative = false then .ok (.natural significand, rest)
  else if 0 < significand ∧ significand ≤ UInt64.size / 2 then .ok (.negative significand, rest)
  else floatOf isNegative significand 0 rest

/-- What follows the integer part of a number, of which `dropped` digits did not fit. -/
def scanNumberEnd (isNegative : Bool) (significand dropped : Nat) :
    List UInt8 → Except Fault (Number × List UInt8)
  | [] => integerOf isNegative significand dropped []
  | byte :: rest =>
    if byte = Byte.point then scanFraction isNegative significand dropped rest
    else if Byte.isExponentMark byte then scanExponent isNegative significand dropped rest
    else integerOf isNegative significand dropped (byte :: rest)

/-- A number, behind its sign. No digit may follow a zero in front. -/
def scanNumber (isNegative : Bool) : List UInt8 → Except Fault (Number × List UInt8)
  | [] => .error (.looking .endInValue [])
  | byte :: rest =>
    if byte = Byte.zero then
      if startsWithDigit rest then .error (.looking .invalidNumber rest)
      else scanNumberEnd isNegative 0 0 rest
    else if Byte.isDigit byte then
      let (n, rest') := takeDigits greatestSignificand (digitValue byte) rest
      let behind := skipDigits rest'
      scanNumberEnd isNegative n (rest'.length - behind.length) behind
    else
      .error (.before .invalidNumber rest)

/-! ## Extents -/

/-- Pass over the digits of an exponent, of which there must be one. -/
def skipExponentDigits : List UInt8 → Except Fault (List UInt8)
  | [] => .error (.looking .invalidNumber [])
  | byte :: rest =>
    if Byte.isDigit byte then .ok (skipDigits rest) else .error (.before .invalidNumber rest)

/-- Pass over an exponent, behind its mark. -/
def skipExponent : List UInt8 → Except Fault (List UInt8)
  | [] => skipExponentDigits []
  | byte :: rest =>
    if byte = Byte.plus ∨ byte = Byte.minus then skipExponentDigits rest
    else skipExponentDigits (byte :: rest)

def skipFloatEnd : List UInt8 → Except Fault (List UInt8)
  | [] => .ok []
  | byte :: rest => if Byte.isExponentMark byte then skipExponent rest else .ok (byte :: rest)

def skipNumberEnd : List UInt8 → Except Fault (List UInt8)
  | [] => .ok []
  | byte :: rest =>
    if byte = Byte.point then
      if startsWithDigit rest then skipFloatEnd (skipDigits rest)
      else .error (.looking .invalidNumber rest)
    else
      skipFloatEnd (byte :: rest)

/-- Pass over a number, behind its sign. -/
def skipNumber : List UInt8 → Except Fault (List UInt8)
  | [] => .error (.looking .invalidNumber [])
  | byte :: rest =>
    if byte = Byte.zero then
      if startsWithDigit rest then .error (.looking .invalidNumber rest) else skipNumberEnd rest
    else if Byte.isDigit byte then skipNumberEnd (skipDigits rest)
    else .error (.before .invalidNumber rest)

/-! ## Lengths -/

private theorem length_of_floatOf {isNegative : Bool} {significand : Nat} {exponent : Int}
    {bytes rest : List UInt8} {n : Number}
    (h : floatOf isNegative significand exponent bytes = .ok (n, rest)) : rest = bytes := by
  unfold floatOf at h
  split at h
  · simp_all
  · exact absurd h (by simp)

private theorem length_of_scanExponentDigits {isNegative isUpward : Bool}
    {significand first : Nat} {exponent : Int} {bytes rest : List UInt8} {n : Number}
    (h : scanExponentDigits isNegative significand exponent isUpward first bytes = .ok (n, rest)) :
    rest.length ≤ bytes.length := by
  have hlen := length_takeDigits_le greatestExponent first bytes
  simp only [scanExponentDigits] at h
  split at h
  · split at h
    · exact absurd h (by simp)
    · simp only [Except.ok.injEq, Prod.mk.injEq] at h
      rw [← h.2]
      exact Nat.le_trans (length_skipDigits_le _) hlen
  · rw [length_of_floatOf h]
    exact hlen

private theorem length_of_scanUnsignedExponent {isNegative isUpward : Bool} {significand : Nat}
    {exponent : Int} {bytes rest : List UInt8} {n : Number}
    (h : scanUnsignedExponent isNegative significand exponent isUpward bytes = .ok (n, rest)) :
    rest.length ≤ bytes.length := by
  unfold scanUnsignedExponent at h
  split at h
  · exact absurd h (by simp)
  · split at h
    · exact Nat.le_succ_of_le (length_of_scanExponentDigits h)
    · exact absurd h (by simp)

private theorem length_of_scanExponent {isNegative : Bool} {significand : Nat} {exponent : Int}
    {bytes rest : List UInt8} {n : Number}
    (h : scanExponent isNegative significand exponent bytes = .ok (n, rest)) :
    rest.length ≤ bytes.length := by
  unfold scanExponent at h
  split at h
  · exact absurd h (by simp)
  split at h
  · exact Nat.le_succ_of_le (length_of_scanUnsignedExponent h)
  split at h
  · exact Nat.le_succ_of_le (length_of_scanUnsignedExponent h)
  · exact length_of_scanUnsignedExponent h

private theorem length_of_scanFloatEnd {isNegative : Bool} {significand : Nat} {exponent : Int}
    {bytes rest : List UInt8} {n : Number}
    (h : scanFloatEnd isNegative significand exponent bytes = .ok (n, rest)) :
    rest.length ≤ bytes.length := by
  unfold scanFloatEnd at h
  split at h
  · simp [length_of_floatOf h]
  · split at h
    · exact Nat.le_succ_of_le (length_of_scanExponent h)
    · simp [length_of_floatOf h]

private theorem length_of_scanFraction {isNegative : Bool} {significand : Nat} {exponent : Int}
    {bytes rest : List UInt8} {n : Number}
    (h : scanFraction isNegative significand exponent bytes = .ok (n, rest)) :
    rest.length ≤ bytes.length := by
  have hlen := length_takeDigits_le greatestSignificand significand bytes
  simp only [scanFraction] at h
  split at h
  · exact Nat.le_trans (length_of_scanFloatEnd h) (Nat.le_trans (length_skipDigits_le _) hlen)
  · split at h
    · split at h <;> exact absurd h (by simp)
    · exact Nat.le_trans (length_of_scanFloatEnd h) hlen

private theorem length_of_integerOf {isNegative : Bool} {significand dropped : Nat}
    {bytes rest : List UInt8} {n : Number}
    (h : integerOf isNegative significand dropped bytes = .ok (n, rest)) : rest = bytes := by
  unfold integerOf at h
  split at h
  · exact length_of_floatOf h
  split at h
  · simp_all
  split at h
  · simp_all
  · exact length_of_floatOf h

private theorem length_of_scanNumberEnd {isNegative : Bool} {significand dropped : Nat}
    {bytes rest : List UInt8} {n : Number}
    (h : scanNumberEnd isNegative significand dropped bytes = .ok (n, rest)) :
    rest.length ≤ bytes.length := by
  unfold scanNumberEnd at h
  split at h
  · simp [length_of_integerOf h]
  split at h
  · exact Nat.le_succ_of_le (length_of_scanFraction h)
  split at h
  · exact Nat.le_succ_of_le (length_of_scanExponent h)
  · simp [length_of_integerOf h]

/-- A number takes at least one byte. -/
theorem length_lt_of_scanNumber {isNegative : Bool} {bytes rest : List UInt8} {n : Number}
    (h : scanNumber isNegative bytes = .ok (n, rest)) : rest.length < bytes.length := by
  unfold scanNumber at h
  split at h
  · exact absurd h (by simp)
  split at h
  · split at h
    · exact absurd h (by simp)
    · exact Nat.lt_succ_of_le (length_of_scanNumberEnd h)
  · simp only at h
    split at h
    · exact Nat.lt_succ_of_le (Nat.le_trans (length_of_scanNumberEnd h)
        (Nat.le_trans (length_skipDigits_le _) (length_takeDigits_le _ _ _)))
    · exact absurd h (by simp)

private theorem length_of_skipExponentDigits {bytes rest : List UInt8}
    (h : skipExponentDigits bytes = .ok rest) : rest.length ≤ bytes.length := by
  unfold skipExponentDigits at h
  split at h
  · exact absurd h (by simp)
  · split at h
    · simp only [Except.ok.injEq] at h
      rw [← h]
      exact Nat.le_succ_of_le (length_skipDigits_le _)
    · exact absurd h (by simp)

private theorem length_of_skipFloatEnd {bytes rest : List UInt8}
    (h : skipFloatEnd bytes = .ok rest) : rest.length ≤ bytes.length := by
  unfold skipFloatEnd at h
  split at h
  · simp_all
  · split at h
    · unfold skipExponent at h
      split at h
      · exact Nat.le_succ_of_le (length_of_skipExponentDigits h)
      split at h
      · exact Nat.le_succ_of_le (Nat.le_succ_of_le (length_of_skipExponentDigits h))
      · exact Nat.le_succ_of_le (length_of_skipExponentDigits h)
    · simp_all

private theorem length_of_skipNumberEnd {bytes rest : List UInt8}
    (h : skipNumberEnd bytes = .ok rest) : rest.length ≤ bytes.length := by
  unfold skipNumberEnd at h
  split at h
  · simp_all
  split at h
  · split at h
    · exact Nat.le_succ_of_le (Nat.le_trans (length_of_skipFloatEnd h) (length_skipDigits_le _))
    · exact absurd h (by simp)
  · exact length_of_skipFloatEnd h

/-- Passing over a number takes at least one byte. -/
theorem length_lt_of_skipNumber {bytes rest : List UInt8} (h : skipNumber bytes = .ok rest) :
    rest.length < bytes.length := by
  unfold skipNumber at h
  split at h
  · exact absurd h (by simp)
  split at h
  · split at h
    · exact absurd h (by simp)
    · exact Nat.lt_succ_of_le (length_of_skipNumberEnd h)
  · split at h
    · exact Nat.lt_succ_of_le
        (Nat.le_trans (length_of_skipNumberEnd h) (length_skipDigits_le _))
    · exact absurd h (by simp)

end PingTun.Json
