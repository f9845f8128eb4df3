-- SUMMARY: Networks: an address and a number of leading bits; membership, text, errors of reading.
import PingTun.Address

/-! # Networks

A network is an address of it together with the number of leading bits that all its members
share. The address keeps its other bits. After a slash, a network's text gives that number, either
itself or as the netmask with so many leading ones.
-/

namespace PingTun

structure Network where
  address : Address
  bits : Nat
  bits_le : bits ≤ 32 := by decide
deriving DecidableEq, Repr

/-- Why a text is not a network. -/
inductive NetworkError
  | address
  | bits
  | slashes (text : List Char)
deriving DecidableEq, Repr

def NetworkError.message : NetworkError → String
  | .address => "invalid address: invalid IPv4 address syntax"
  | .bits => "invalid prefix"
  | .slashes text => "invalid cidr format: CIDR must contain a single '/': " ++ String.ofList text

namespace Network

/-- Whether an address shares the network's leading bits. -/
def contains (n : Network) (a : Address) : Bool :=
  a.toNat >>> (32 - n.bits) == n.address.toNat >>> (32 - n.bits)

/-! ## Text -/

def chars (n : Network) : List Char := n.address.chars ++ '/' :: Numeral.chars n.bits

def text (n : Network) : String := String.ofList n.chars

/-- The number of ones in a netmask, if no zero stands before one of them. -/
def maskBits? (mask : Address) : Option Nat :=
  (List.range 33).find? fun bits => mask.toNat == UInt32.size - 1 <<< (32 - bits)

/-- The number of leading bits that the part after the slash gives. -/
def bits? (cs : List Char) : Option Nat :=
  match Address.ofChars? cs with
  | some mask => maskBits? mask
  | none =>
    match Numeral.readNat 255 cs with
    | .ok n => some n
    | .error _ => none

/-- The network of an address and a number of leading bits, if there are so many. -/
def of? (address : Address) (bits : Nat) : Option Network :=
  if h : bits ≤ 32 then some ⟨address, bits, h⟩ else none

/-- Read an address, optionally followed by a slash and the number of leading bits. -/
def ofChars (cs : List Char) : Except NetworkError Network :=
  let before := cs.takeWhile (· != '/')
  match cs.dropWhile (· != '/') with
  | [] =>
    match Address.ofChars? before with
    | some address => .ok ⟨address, 32, Nat.le_refl 32⟩
    | none => .error .address
  | _ :: after =>
    if '/' ∈ after then .error (.slashes cs)
    else
      match Address.ofChars? before with
      | none => .error .address
      | some address =>
        match (bits? after).bind (of? address) with
        | some network => .ok network
        | none => .error .bits

end Network

end PingTun
