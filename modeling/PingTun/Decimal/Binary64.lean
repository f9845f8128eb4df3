-- SUMMARY: Finite binary64 magnitudes: rounding a quotient to the nearest, products and quotients.

/-! # Binary64 magnitudes

A nonnegative finite number of the 64-bit binary format, as a significand of at most 53 bits and a
power of two. Quotients of naturals are rounded to the nearest such number, of two equally near
ones to the one with the even significand. Numbers too large for the format have no value.
-/

namespace PingTun.Decimal

/-- The number `significand * 2 ^ exponent`. -/
structure Binary64 where
  significand : Nat
  exponent : Int
deriving DecidableEq, Repr, Inhabited

namespace Binary64

/-- The exponent of the least positive number. -/
def leastExponent : Int := -1074

/-- The exponent of the greatest number. -/
def greatestExponent : Int := 971

def zero : Binary64 := ⟨0, leastExponent⟩

/-- `num / den`, both multiplied so that the quotient counts units of `2 ^ exponent`. -/
def scaled (num den : Nat) (exponent : Int) : Nat × Nat :=
  (num <<< (-exponent).toNat, den <<< exponent.toNat)

/-- The natural number nearest to `num / den`, ties to the even one. -/
def roundQuotient (num den : Nat) : Nat :=
  let floor := num / den
  let twiceRest := 2 * (num % den)
  if den < twiceRest ∨ (twiceRest = den ∧ floor % 2 = 1) then floor + 1 else floor

/-- The exponent with which `num / den` has a significand of 53 bits, or else the least one. -/
def exponentOf (num den : Nat) : Int :=
  let guess : Int := (num.log2 : Int) - den.log2 - 52
  let (n, d) := scaled num den guess
  let exponent := if n / d < 1 <<< 52 then guess - 1 else guess
  max leastExponent exponent

/-- The number nearest to `num / den`, if it is not too large. -/
def ofRatio? (num den : Nat) : Option Binary64 :=
  let exponent := exponentOf num den
  let (n, d) := scaled num den exponent
  let significand := roundQuotient n d
  let result : Binary64 :=
    if significand = 1 <<< 53 then ⟨1 <<< 52, exponent + 1⟩ else ⟨significand, exponent⟩
  if greatestExponent < result.exponent then none else some result

/-- The number as a quotient of naturals. -/
def ratio (x : Binary64) : Nat × Nat :=
  (x.significand <<< x.exponent.toNat, 1 <<< (-x.exponent).toNat)

def mul? (x y : Binary64) : Option Binary64 :=
  ofRatio? (x.ratio.1 * y.ratio.1) (x.ratio.2 * y.ratio.2)

def div? (x y : Binary64) : Option Binary64 :=
  ofRatio? (x.ratio.1 * y.ratio.2) (x.ratio.2 * y.ratio.1)

def isZero (x : Binary64) : Bool := x.significand == 0

/-! ## Decimal numbers -/

/-- The greatest power of ten that is not too large. -/
def greatestPower : Nat := 308

/-- The number nearest to a power of ten. -/
def powerOfTen? (n : Nat) : Option Binary64 := ofRatio? (Nat.pow 10 n) 1

/-- Divide by `10 ^ exponent`, at most by `10 ^ 308` at a time, until nothing is left. -/
def divideByPower (x : Binary64) (exponent : Nat) : Binary64 :=
  if x.isZero then x
  else if exponent ≤ greatestPower then
    ((powerOfTen? exponent).bind x.div?).getD zero
  else
    divideByPower (((powerOfTen? greatestPower).bind x.div?).getD zero) (exponent - greatestPower)
termination_by exponent
decreasing_by
  simp only [greatestPower] at *
  omega

/-- A significand of 64 bits times a power of ten, rounded after every step: the significand, the
power and their product or quotient. -/
def ofDecimal? (significand : Nat) (exponent : Int) : Option Binary64 :=
  (ofRatio? significand 1).bind fun x =>
    if exponent < 0 then some (x.divideByPower (-exponent).toNat)
    else if exponent ≤ greatestPower then (powerOfTen? exponent.toNat).bind x.mul?
    else if x.isZero then some x
    else none

end Binary64

end PingTun.Decimal
