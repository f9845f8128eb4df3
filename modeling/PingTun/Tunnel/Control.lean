-- SUMMARY: What allocating tunnel interfaces needs from a platform.
import PingTun.Host.Call
import PingTun.IoError

namespace PingTun

/-- The platform below tunnel interfaces, over a state of type `σ`. A descriptor that `connect`
gives is bound to the unit until it is closed. -/
structure TunnelControl (σ : Type) where
  connect : UInt32 → StateM σ (Except IoError Descriptor)
  /-- The name that the platform gives to the interface of a unit. -/
  interfaceName : UInt32 → String
  getMtu : Descriptor → String → StateM σ (Except IoError UInt32)
  setMtu : Descriptor → String → UInt32 → StateM σ (Except IoError Unit)
  close : Descriptor → StateM σ Unit

namespace TunnelControl

/-- The greatest MTU that fits into the signed word the kernel takes. -/
def greatestMtu : Nat := UInt32.size / 2 - 1

/-- An MTU as the kernel takes it. -/
def signedMtu? (mtu : UInt32) : Except IoError Int32 :=
  if mtu.toNat ≤ greatestMtu then .ok (Int32.ofNat mtu.toNat) else .error .mtuOutOfRange

/-- An MTU as the kernel gives it. -/
def unsignedMtu? (mtu : Int32) : Except IoError UInt32 :=
  if 0 ≤ mtu.toInt then .ok mtu.toInt.toNat.toUInt32 else .error .negativeMtu

/-- An interface name as the kernel takes it. -/
def kernelName? (name : String) : Except IoError InterfaceName :=
  match InterfaceName.ofString? name with
  | some n => .ok n
  | none => .error (.invalidInterfaceName name)

end TunnelControl

end PingTun
