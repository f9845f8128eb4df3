-- SUMMARY: The shortest decimal that reads back as a binary64 number, and its two notations.
import PingTun.Decimal.Binary64
import PingTun.Text.Numeral

/-! # Shortest decimals

Of the decimals that are nearer to a binary64 number than to any other, the ones with the fewest
digits, and of those the nearest. A point halfway to a neighbour belongs to the number whose
significand is even. Points of a grid of decimals are met by trying the two around the number.
-/

namespace PingTun.Decimal

/-- The number `digits * 10 ^ power`. -/
structure Scientific where
  digits : Nat
  power : Int
deriving DecidableEq, Repr

namespace Shortest

/-! ## The interval of a number -/

/-- The numbers `low / den` and `high / den` around `value / den`, and whether they belong to
what lies between them. -/
structure Interval where
  low : Nat
  value : Nat
  high : Nat
  den : Nat
  closed : Bool

/-- The reals that are nearest to a number; the gap below a power of two is half as wide. -/
def interval (x : Binary64) : Interval :=
  let gap := if x.significand = 1 <<< 52 ∧ Binary64.leastExponent < x.exponent then 1 else 2
  let unit := 1 <<< x.exponent.toNat
  { low := (4 * x.significand - gap) * unit
    value := 4 * x.significand * unit
    high := (4 * x.significand + 2) * unit
    den := 4 <<< (-x.exponent).toNat
    closed := x.significand % 2 == 0 }

/-! ## Grids of decimals -/

/-- `num / den` in units of `10 ^ power`. -/
def scaled (num den : Nat) (power : Int) : Nat × Nat :=
  (num * Nat.pow 10 (-power).toNat, den * Nat.pow 10 power.toNat)

/-- Whether `point * 10 ^ power` lies in an interval. -/
def Interval.holds (i : Interval) (power : Int) (point : Nat) : Bool :=
  let (low, den) := scaled i.low i.den power
  let (high, _) := scaled i.high i.den power
  if i.closed then low ≤ point * den && point * den ≤ high
  else low < point * den && point * den < high

/-- The point of the grid of `10 ^ power` that lies in an interval and is nearest to its value,
the even one of two. -/
def Interval.nearest? (i : Interval) (power : Int) : Option Nat :=
  let (num, den) := scaled i.value i.den power
  let below := num / den
  let twiceRest := 2 * (num % den)
  let belowFirst := twiceRest < den ∨ (twiceRest = den ∧ below % 2 = 0)
  if belowFirst then
    if i.holds power below then some below
    else if i.holds power (below + 1) then some (below + 1)
    else none
  else
    if i.holds power (below + 1) then some (below + 1)
    else if i.holds power below then some below
    else none

/-- The power of ten of the first digit of `num / den`. -/
def leadingPower (num den : Nat) : Int :=
  if den ≤ num then ((Nat.toDigits 10 (num / den)).length : Int) - 1
  else
    match (List.range 400).find? fun n => den ≤ num * Nat.pow 10 (n + 1) with
    | some n => -((n : Int) + 1)
    | none => 0

/-- Drop zeros at the end of the digits. -/
def trim (fuel : Nat) (s : Scientific) : Scientific :=
  match fuel with
  | 0 => s
  | fuel + 1 => if s.digits % 10 = 0 then trim fuel ⟨s.digits / 10, s.power + 1⟩ else s

/-- The shortest decimal of a positive number: the first grid, from coarse to fine, that has a
point in the number's interval. Seventeen digits always suffice. -/
def ofBinary64 (x : Binary64) : Scientific :=
  if x.isZero then ⟨0, 0⟩
  else
    let i := interval x
    let leading := leadingPower i.value i.den
    let found := (List.range 17).findSome? fun (n : Nat) =>
      let power := leading - n
      (i.nearest? power).map fun digits => trim 17 ⟨digits, power⟩
    found.getD ⟨0, 0⟩

end Shortest

/-! ## Notation -/

/-- How a decimal is written: the powers of ten of the first digit for which it is written out,
and otherwise the mark and the signs of the exponent. -/
structure Style where
  leastWrittenOut : Int
  greatestWrittenOut : Int
  mark : Char
  plus : List Char
  minus : List Char

namespace Scientific

/-- The power of ten of the first digit. -/
def leading (s : Scientific) : Int := s.power + (Numeral.chars s.digits).length - 1

/-- The digits with a point in them or zeros around them, never without a point. -/
def writtenOut (s : Scientific) : List Char :=
  let digits := Numeral.chars s.digits
  if 0 ≤ s.power then digits ++ List.replicate s.power.toNat '0' ++ ['.', '0']
  else if 0 ≤ s.leading then
    digits.take (s.leading.toNat + 1) ++ '.' :: digits.drop (s.leading.toNat + 1)
  else '0' :: '.' :: (List.replicate (-s.leading - 1).toNat '0' ++ digits)

/-- One digit, a point if more follow, and the exponent. -/
def withExponent (style : Style) (s : Scientific) : List Char :=
  let digits := Numeral.chars s.digits
  let fraction := if digits.length = 1 then [] else '.' :: digits.drop 1
  let sign := if s.leading < 0 then style.minus else style.plus
  digits.take 1 ++ fraction ++ style.mark :: (sign ++ Numeral.chars s.leading.natAbs)

def chars (style : Style) (s : Scientific) : List Char :=
  if s.digits = 0 ∨ (style.leastWrittenOut ≤ s.leading ∧ s.leading ≤ style.greatestWrittenOut) then
    s.writtenOut
  else
    s.withExponent style

end Scientific

end PingTun.Decimal
