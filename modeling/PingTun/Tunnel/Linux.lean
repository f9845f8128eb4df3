-- SUMMARY: Tunnel control on Linux: exclusive, explicitly named interfaces of the tunnel device.
import PingTun.Host.Basic
import PingTun.Tunnel.Control

/-! # Linux

A unit's interface is made by attaching a descriptor of the tunnel device to its name. The device
itself does not answer questions about MTUs, so these go to a datagram socket that is opened for
each of them.
-/

namespace PingTun.Linux

def interfaceName (unit : UInt32) : String := "tun" ++ Numeral.text unit.toNat

/-- A layer 3 tunnel, without a header on packets, that must not exist yet. -/
def attachFlags : UInt16 := 0x0001 ||| 0x1000 ||| 0x8000

def connect (unit : UInt32) : StateM Host (Except IoError Descriptor) := do
  match TunnelControl.kernelName? (interfaceName unit) with
  | .error e => return .error e
  | .ok name =>
    match ← Host.openTunnelDevice with
    | .error cause => return .error (.os cause)
    | .ok descriptor =>
      match ← Host.attachInterface descriptor name attachFlags with
      | .ok () => return .ok descriptor
      | .error cause =>
        Host.close descriptor
        return .error (.os cause)

/-- Do something with the interface of a name while a datagram socket is open for it. -/
def withSocket (name : String)
    (ask : Descriptor → InterfaceName → StateM Host (Except IoError α)) :
    StateM Host (Except IoError α) := do
  match ← Host.openDatagramSocket with
  | .error cause => return .error (.os cause)
  | .ok socket =>
    let result ← match TunnelControl.kernelName? name with
      | .error e => pure (.error e)
      | .ok name => ask socket name
    Host.close socket
    return result

def getMtu (name : String) : StateM Host (Except IoError UInt32) :=
  withSocket name fun socket name => do
    match ← Host.getMtu socket name with
    | .error cause => return .error (.os cause)
    | .ok mtu => return TunnelControl.unsignedMtu? mtu

def setMtu (name : String) (mtu : UInt32) : StateM Host (Except IoError Unit) := do
  match TunnelControl.signedMtu? mtu with
  | .error e => return .error e
  | .ok mtu =>
    withSocket name fun socket name => do
      match ← Host.setMtu socket name mtu with
      | .error cause => return .error (.os cause)
      | .ok () => return .ok ()

def control : TunnelControl Host where
  connect := connect
  interfaceName := interfaceName
  getMtu _ name := getMtu name
  setMtu _ name mtu := setMtu name mtu
  close := Host.close

end PingTun.Linux
