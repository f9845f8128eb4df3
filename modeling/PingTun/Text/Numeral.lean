-- SUMMARY: Decimal numerals: how words are written, and how a bounded one is read.

/-! # Decimal numerals

A numeral is read from left to right, and the first character that spoils it decides what is
wrong: one that is no digit, or one with which the number outgrows its bound. A plus sign may
stand in front, a minus sign only where negative numbers are allowed.
-/

namespace PingTun.Numeral

/-- Why a text is not a number of the wanted range. -/
inductive Flaw
  | empty
  | invalidDigit
  | tooLarge
  | tooSmall
deriving DecidableEq, Repr

def Flaw.message : Flaw → String
  | .empty => "cannot parse integer from empty string"
  | .invalidDigit => "invalid digit found in string"
  | .tooLarge => "number too large to fit in target type"
  | .tooSmall => "number too small to fit in target type"

/-! ## Writing -/

/-- The digits of a number, without leading zeros. -/
def chars (n : Nat) : List Char := Nat.toDigits 10 n

def text (n : Nat) : String := String.ofList (chars n)

theorem chars_injective {m n : Nat} (h : chars m = chars n) : m = n := by
  have := congrArg (Nat.ofDigitChars 10 · 0) h
  simpa [chars] using this

/-! ## Reading -/

/-- The value of a digit. -/
def digit? (c : Char) : Option Nat :=
  if c.isDigit then some (c.toNat - '0'.toNat) else none

/-- Continue a number with further digits, as long as it stays within `bound`. -/
def extend (bound : Nat) (outgrown : Flaw) : Nat → List Char → Except Flaw Nat
  | n, [] => .ok n
  | n, c :: cs =>
    match digit? c with
    | none => .error .invalidDigit
    | some d => if n * 10 + d ≤ bound then extend bound outgrown (n * 10 + d) cs else .error outgrown

/-- Read a number from 0 to `bound`. -/
def readNat (bound : Nat) : List Char → Except Flaw Nat
  | [] => .error .empty
  | ['+'] => .error .invalidDigit
  | '+' :: cs => extend bound .tooLarge 0 cs
  | cs => extend bound .tooLarge 0 cs

/-- Read a number from `-(bound + 1)` to `bound`. -/
def readInt (bound : Nat) : List Char → Except Flaw Int
  | ['-'] => .error .invalidDigit
  | '-' :: cs => (extend (bound + 1) .tooSmall 0 cs).map fun n => -(n : Int)
  | cs => (readNat bound cs).map fun n => (n : Int)

end PingTun.Numeral
