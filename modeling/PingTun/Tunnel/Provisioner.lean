-- SUMMARY: Allocating tunnel interfaces: trying units in order, and the handles of claimed ones.
import PingTun.Config.Basic
import PingTun.Event
import PingTun.Tunnel.Control

/-! # Provisioning

There is no way to ask for any free unit, so units are claimed by trying one after the other over
a small range. Others race for the same units, so a refused unit is nothing unusual.
-/

namespace PingTun

/-! ## Handles -/

/-- The exclusive owner of a tunnel interface, or a handle of none if it has no descriptor. -/
structure TunnelHandle where
  descriptor : Option Descriptor
  unit : UInt32
  name : String
  /-- The MTU that was last set through the handle. -/
  configuredMtu : Option UInt32
deriving DecidableEq, Repr

namespace TunnelHandle

def invalid : TunnelHandle :=
  { descriptor := none, unit := 0, name := "", configuredMtu := none }

def isValid (h : TunnelHandle) : Bool := h.descriptor.isSome

/-- The handle's descriptor, or the error of operations on a handle of no interface. -/
def descriptor? (h : TunnelHandle) : Except IoError Descriptor :=
  match h.descriptor with
  | some descriptor => .ok descriptor
  | none => .error .invalidHandle

end TunnelHandle

/-! ## Claiming -/

/-- All candidates were refused. -/
structure Unavailable where
  firstUnit : UInt32
  lastUnit : UInt32
deriving DecidableEq, Repr

def Unavailable.message (e : Unavailable) : String :=
  "no tunnel unit available in " ++ Numeral.text e.firstUnit.toNat ++ "..=" ++
    Numeral.text e.lastUnit.toNat

namespace TunnelControl

variable {σ : Type}

/-- Try so many units from `first + offset` on, as long as there are units, and claim the first
that is not refused. The events go behind those there already are, the last of which comes
first. -/
def claimBehind (c : TunnelControl σ) (first : UInt32) :
    Nat → Nat → List Event → StateM σ (Option TunnelHandle × List Event)
  | 0, _, events => return (none, events.reverse)
  | count + 1, offset, events =>
    if first.toNat + offset < UInt32.size then do
      let unit := (first.toNat + offset).toUInt32
      match ← c.connect unit with
      | .ok descriptor =>
        let name := c.interfaceName unit
        return (some ⟨some descriptor, unit, name, none⟩,
          (.tunnelOpened unit name :: events).reverse)
      | .error _ => claimBehind c first count (offset + 1) (.unitUnavailable unit :: events)
    else
      return (none, events.reverse)

/-- Try so many units from `first + offset` on, as long as there are units, and claim the first
that is not refused. The events come in the order of the units. -/
def claim (c : TunnelControl σ) (first : UInt32) (count offset : Nat) :
    StateM σ (Option TunnelHandle × List Event) :=
  c.claimBehind first count offset []

theorem claimBehind_eq (c : TunnelControl σ) (first : UInt32) (count offset : Nat)
    (events : List Event) (s : σ) :
    c.claimBehind first count offset events s =
      (((c.claim first count offset s).1.1, events.reverse ++ (c.claim first count offset s).1.2),
        (c.claim first count offset s).2) := by
  induction count generalizing offset events s with
  | zero =>
    show ((none, events.reverse), s) = ((none, events.reverse ++ []), s)
    rw [List.append_nil]
  | succ count ih =>
    simp only [claim, claimBehind]
    split
    · simp only [bind, StateT.bind]
      generalize c.connect (first.toNat + offset).toUInt32 s = answer
      obtain ⟨result, s'⟩ := answer
      cases result with
      | ok descriptor =>
        show ((some _, (_ :: events).reverse), s') = ((some _, events.reverse ++ [_]), s')
        rw [List.reverse_cons]
      | error cause =>
        dsimp only
        rw [ih, ih (offset + 1) [_]]
        simp
    · show ((none, events.reverse), s) = ((none, events.reverse ++ []), s)
      rw [List.append_nil]

/-- Claim the first free unit of the configured range. -/
def create (c : TunnelControl σ) (config : TunnelConfig) :
    StateM σ (Except Unavailable TunnelHandle × List Event) := do
  match ← c.claim config.firstUnit config.unitCount.toNat 0 with
  | (some handle, events) => return (.ok handle, events)
  | (none, events) =>
    return (.error ⟨config.firstUnit, config.lastUnit⟩,
      events ++ [.unitsExhausted config.firstUnit config.lastUnit])

/-! ## MTUs -/

/-- The MTU of a handle's interface, or zero if it can not be told. -/
def mtuOf (c : TunnelControl σ) (h : TunnelHandle) : StateM σ (UInt32 × List Event) := do
  match h.descriptor? with
  | .error _ => return (0, [.mtuUnknown h.name])
  | .ok descriptor =>
    match ← c.getMtu descriptor h.name with
    | .ok mtu => return (mtu, [])
    | .error _ => return (0, [.mtuUnknown h.name])

/-- Set the MTU of a handle's interface. The answer is the MTU, or zero if it was not set. -/
def assignMtu (c : TunnelControl σ) (h : TunnelHandle) (mtu : UInt32) :
    StateM σ (UInt32 × TunnelHandle × List Event) := do
  match h.descriptor? with
  | .error _ => return (0, h, [.mtuRefused h.name mtu])
  | .ok descriptor =>
    match ← c.setMtu descriptor h.name mtu with
    | .ok () => return (mtu, { h with configuredMtu := some mtu }, [])
    | .error _ => return (0, h, [.mtuRefused h.name mtu])

/-- Give up a handle, which closes its descriptor. -/
def drop (c : TunnelControl σ) (h : TunnelHandle) : StateM σ Unit :=
  match h.descriptor with
  | some descriptor => c.close descriptor
  | none => pure ()

end TunnelControl

end PingTun
