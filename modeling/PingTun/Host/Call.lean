-- SUMMARY: The calls made to the operating system, with their results.
import PingTun.Address
import PingTun.Errno
import PingTun.Tunnel.InterfaceName

/-! # System calls

Each call is kept with what it was about and with its result. A refusal is the error number that
the call failed with, if it failed.
-/

namespace PingTun

/-- A descriptor, by a number that is never used again. -/
abbrev Descriptor := Nat

/-- What a descriptor stands for: a raw or a datagram socket, or a tunnel device or control
socket, which may be bound to a unit. -/
inductive Endpoint
  | raw
  | datagram
  | tunnel (unit : Option UInt32)
deriving DecidableEq, Repr

/-- The address of a kernel control. -/
structure ControlAddress where
  length : UInt8
  family : UInt8
  systemAddress : UInt16
  id : UInt32
  unit : UInt32
  reserved : List UInt32
deriving DecidableEq, Repr

/-- A call, with the descriptor it was made on. -/
inductive Call
  | openRawSocket (result : Except Errno Descriptor)
  /-- Set the option `IP_HDRINCL` of a socket. -/
  | includeHeader (socket : Descriptor) (refusal : Option Errno)
  | makeNonblocking (socket : Descriptor) (refusal : Option Errno)
  | registerReadiness (socket : Descriptor) (refusal : Option Errno)
  /-- Set the option `IP_MTU_DISCOVER` of a socket, on the level `IPPROTO_IP`, to
  `IP_PMTUDISC_DO`. -/
  | forbidFragmenting (socket : Descriptor) (refusal : Option Errno)
  | sendTo (socket : Descriptor) (destination : Address) (port : UInt16) (packet : List UInt8)
      (result : Except Errno Nat)
  | openTunnelDevice (result : Except Errno Descriptor)
  | openDatagramSocket (result : Except Errno Descriptor)
  | openControlSocket (result : Except Errno Descriptor)
  | attachInterface (device : Descriptor) (name : InterfaceName) (flags : UInt16)
      (refusal : Option Errno)
  | getMtu (socket : Descriptor) (name : InterfaceName) (result : Except Errno Int32)
  | setMtu (socket : Descriptor) (name : InterfaceName) (mtu : Int32) (refusal : Option Errno)
  | closeOnExec (socket : Descriptor) (refusal : Option Errno)
  | lookUpControl (socket : Descriptor) (name : String) (result : Except Errno UInt32)
  | connectControl (socket : Descriptor) (address : ControlAddress) (closeOnExec : Bool)
      (refusal : Option Errno)
  /-- What the descriptor stood for, unless it was not open. -/
  | close (descriptor : Descriptor) (endpoint : Option Endpoint)

/-- Whether a packet is handed over to be sent, with any result. -/
def Call.isTransmission : Call → Bool
  | .sendTo .. => true
  | _ => false

end PingTun
