-- SUMMARY: IPv4 addresses: their octets, their number, how they are written and read.
import PingTun.Text.Numeral

/-! # IPv4 addresses

An address is written as its four octets with points between them. Reading accepts exactly that:
four parts, each of one to three digits, none above 255 and none with a zero in front.
-/

namespace PingTun

/-- An IPv4 address, by its octets in the order they are written. -/
structure Address where
  first : UInt8
  second : UInt8
  third : UInt8
  fourth : UInt8
deriving DecidableEq, Repr, Inhabited

namespace Address

def octets (a : Address) : List UInt8 := [a.first, a.second, a.third, a.fourth]

/-- The address as a number, its first octet the most significant. -/
def toNat (a : Address) : Nat :=
  ((a.first.toNat * 256 + a.second.toNat) * 256 + a.third.toNat) * 256 + a.fourth.toNat

theorem toNat_lt (a : Address) : a.toNat < UInt32.size := by
  have := a.first.toNat_lt
  have := a.second.toNat_lt
  have := a.third.toNat_lt
  have := a.fourth.toNat_lt
  simp only [toNat, UInt32.size]
  omega

/-! ## Text -/

def chars (a : Address) : List Char :=
  Numeral.chars a.first.toNat ++ '.' :: (Numeral.chars a.second.toNat ++ '.' ::
    (Numeral.chars a.third.toNat ++ '.' :: Numeral.chars a.fourth.toNat))

def text (a : Address) : String := String.ofList a.chars

/-- One octet: up to three digits, without a zero in front of another digit. -/
def octet? (cs : List Char) : Option UInt8 :=
  if cs.length ≤ 3 ∧ (cs.length = 1 ∨ cs.head? ≠ some '0') ∧ cs.head? ≠ some '+' then
    match Numeral.readNat 255 cs with
    | .ok n => some n.toUInt8
    | .error _ => none
  else
    none

/-- The address a text writes out. -/
def ofChars? (cs : List Char) : Option Address :=
  match (cs.splitOn '.').map octet? with
  | [some a, some b, some c, some d] => some ⟨a, b, c, d⟩
  | _ => none

def ofString? (s : String) : Option Address := ofChars? s.toList

end Address

end PingTun
