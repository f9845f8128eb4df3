-- SUMMARY: Tunnel control on macOS: kernel control sockets.
import PingTun.Host.Basic
import PingTun.Tunnel.Control

/-! # macOS

A unit's interface is made by connecting a control socket to the kernel control of tunnels, and is
numbered one below the unit. Unit 0 would stand for any free interface, whose name would not be
known, so it is never asked for. The socket itself answers questions about MTUs.
-/

namespace PingTun.MacOS

def controlName : String := "com.apple.net.utun_control"

def interfaceName (unit : UInt32) : String := "utun" ++ Numeral.text (unit.toNat - 1)

/-- The address that stands for a unit of a kernel control. -/
def controlAddress (id unit : UInt32) : ControlAddress :=
  { length := 32, family := 32, systemAddress := 2, id, unit, reserved := List.replicate 5 0 }

/-- Bind a control socket to a unit. -/
def attach (socket : Descriptor) (unit : UInt32) : StateM Host (Except Errno Unit) := do
  match ← Host.setCloseOnExec socket with
  | .error cause => return .error cause
  | .ok () =>
    match ← Host.lookUpControl socket controlName with
    | .error cause => return .error cause
    | .ok id => Host.connectControl socket (controlAddress id unit)

def connect (unit : UInt32) : StateM Host (Except IoError Descriptor) := do
  if unit = 0 then return .error .unspecificUnit
  match ← Host.openControlSocket with
  | .error cause => return .error (.os cause)
  | .ok socket =>
    match ← attach socket unit with
    | .ok () => return .ok socket
    | .error cause =>
      Host.close socket
      return .error (.os cause)

def getMtu (socket : Descriptor) (name : String) : StateM Host (Except IoError UInt32) := do
  match TunnelControl.kernelName? name with
  | .error e => return .error e
  | .ok name =>
    match ← Host.getMtu socket name with
    | .error cause => return .error (.os cause)
    | .ok mtu => return TunnelControl.unsignedMtu? mtu

def setMtu (socket : Descriptor) (name : String) (mtu : UInt32) :
    StateM Host (Except IoError Unit) := do
  match TunnelControl.signedMtu? mtu with
  | .error e => return .error e
  | .ok mtu =>
    match TunnelControl.kernelName? name with
    | .error e => return .error e
    | .ok name =>
      match ← Host.setMtu socket name mtu with
      | .error cause => return .error (.os cause)
      | .ok () => return .ok ()

def control : TunnelControl Host where
  connect := connect
  interfaceName := interfaceName
  getMtu := getMtu
  setMtu := setMtu
  close := Host.close

end PingTun.MacOS
