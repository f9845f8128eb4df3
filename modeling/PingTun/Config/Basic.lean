-- SUMMARY: The configuration of tunnels and probes, its defaults, and the values derived from it.
import PingTun.Network

/-! # Configuration

Which units are candidates for tunnel interfaces, and whether and how echo replies are simulated.
-/

namespace PingTun

/-! ## Tunnels -/

/-- The first candidate, which leaves the low units to others. -/
def TunnelConfig.defaultFirstUnit : UInt32 := 8

/-- The number of candidates, which bounds how long finding a free unit can take. -/
def TunnelConfig.defaultUnitCount : UInt32 := 25

/-- The candidate units: so many, from the first one upwards. -/
structure TunnelConfig where
  firstUnit : UInt32 := TunnelConfig.defaultFirstUnit
  unitCount : UInt32 := TunnelConfig.defaultUnitCount
deriving DecidableEq, Repr

namespace TunnelConfig

/-- The greatest unit there is. -/
def greatestUnit : Nat := UInt32.size - 1

/-- The last candidate, as far as there are units; the first one if there are no candidates. -/
def lastUnit (c : TunnelConfig) : UInt32 :=
  (min greatestUnit (c.firstUnit.toNat + (c.unitCount.toNat - 1))).toUInt32

end TunnelConfig

/-! ## Probes -/

/-- The delay of simulated replies, in milliseconds. -/
def ProbeConfig.defaultReplyDelay : UInt64 := 30

/-- The network that simulated replies never come from. -/
def ProbeConfig.defaultUnreachable : Network := { address := ⟨192, 0, 2, 0⟩, bits := 24 }

/-- Whether replies are simulated, after how many milliseconds, and for which network never. -/
structure ProbeConfig where
  simulate : Bool := false
  replyDelay : UInt64 := ProbeConfig.defaultReplyDelay
  unreachable : Network := ProbeConfig.defaultUnreachable
deriving DecidableEq, Repr

namespace ProbeConfig

/-- The longest delay that is waited for: an hour. -/
def greatestReplyDelay : Nat := 60 * 60 * 1000

/-- The delay that is waited for, in milliseconds. -/
def effectiveDelay (c : ProbeConfig) : Nat := min c.replyDelay.toNat greatestReplyDelay

end ProbeConfig

/-! ## Both -/

structure Config where
  tunnel : TunnelConfig := {}
  probe : ProbeConfig := {}
deriving DecidableEq, Repr

end PingTun
