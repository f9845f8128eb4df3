-- SUMMARY: The operating system below probes and tunnels: its books, its script, and its calls.
import PingTun.Host.Call
import PingTun.Text.Numeral

/-! # Hosts

A host keeps books on the descriptors that are open, the units that are occupied and the MTU of
every interface name, and answers calls by them. Which calls it refuses for reasons of its own is
laid down in a script, as a function of the calls made so far. All calls are kept.
-/

namespace PingTun

/-! ## Scripts -/

/-- A call that the system may refuse. -/
inductive Request
  | openRawSocket
  | includeHeader
  | makeNonblocking
  | registerReadiness
  | forbidFragmenting
  | openTunnelDevice
  | openDatagramSocket
  | openControlSocket
  | closeOnExec
  | lookUpControl
  | bind (unit : UInt32)
  | getMtu (name : List UInt8)
  | setMtu (name : List UInt8)
deriving DecidableEq, Repr

/-- What the system decides beyond its books, given the calls made so far, the last of which comes
first: which requests it refuses, how many bytes of a packet it sends, and which number it gives to
the kernel control that is looked up. -/
structure Script where
  refusal : List Call → Request → Option Errno
  sent : List Call → List UInt8 → Except Errno Nat
  controlId : List Call → UInt32

/-- Error numbers of calls that are always refused. -/
structure Refusals where
  openRawSocket : Option Errno := none
  includeHeader : Option Errno := none
  makeNonblocking : Option Errno := none
  registerReadiness : Option Errno := none
  forbidFragmenting : Option Errno := none
  openTunnelDevice : Option Errno := none
  openDatagramSocket : Option Errno := none
  openControlSocket : Option Errno := none
  lookUpControl : Option Errno := none
  getMtu : Option Errno := none
  setMtu : Option Errno := none
  bind : UInt32 → Option Errno := fun _ => none

namespace Refusals

def refusal (r : Refusals) : Request → Option Errno
  | .openRawSocket => r.openRawSocket
  | .includeHeader => r.includeHeader
  | .makeNonblocking => r.makeNonblocking
  | .registerReadiness => r.registerReadiness
  | .forbidFragmenting => r.forbidFragmenting
  | .openTunnelDevice => r.openTunnelDevice
  | .openDatagramSocket => r.openDatagramSocket
  | .openControlSocket => r.openControlSocket
  | .closeOnExec => none
  | .lookUpControl => r.lookUpControl
  | .bind unit => r.bind unit
  | .getMtu _ => r.getMtu
  | .setMtu _ => r.setMtu

/-- No longer refuse to bind a unit. -/
def free (r : Refusals) (unit : UInt32) : Refusals :=
  { r with bind := fun u => if u = unit then none else r.bind u }

/-- The script that refuses the same calls at all times, and sends packets whole. -/
def script (r : Refusals) (controlId : UInt32) : Script where
  refusal _ request := r.refusal request
  sent _ packet := .ok packet.length
  controlId _ := controlId

end Refusals

/-! ## Books -/

/-- An open descriptor, what it stands for, and whether it is closed in programs that are started
later. -/
structure OpenDescriptor where
  descriptor : Descriptor
  endpoint : Endpoint
  closeOnExec : Bool
deriving DecidableEq, Repr

structure Host where
  script : Script
  /-- The units whose interfaces exist. -/
  occupied : UInt32 → Bool := fun _ => false
  mtus : List UInt8 → Int32 := fun _ => 1500
  live : List OpenDescriptor := []
  /-- The next descriptor to be handed out. -/
  next : Descriptor := 0
  /-- The calls made so far, the last of which comes first. -/
  log : List Call := []
  /-- The number of packets that were handed over to be sent. -/
  transmissions : Nat := 0

namespace Host

/-- The calls made so far, in order. -/
def calls (h : Host) : List Call := h.log.reverse

def record (call : Call) (h : Host) : Host :=
  { h with
    log := call :: h.log
    transmissions := h.transmissions + if call.isTransmission then 1 else 0 }

@[simp] theorem calls_record (call : Call) (h : Host) :
    (h.record call).calls = h.calls ++ [call] := by
  simp [calls, record]

/-- The script's verdict on a request that is made now. -/
def refusal? (request : Request) (h : Host) : Option Errno :=
  h.script.refusal h.log request

def occupy (unit : UInt32) (h : Host) : Host :=
  { h with occupied := fun u => if u = unit then true else h.occupied u }

def vacate (unit : UInt32) (h : Host) : Host :=
  { h with occupied := fun u => if u = unit then false else h.occupied u }

def assignMtu (name : List UInt8) (mtu : Int32) (h : Host) : Host :=
  { h with mtus := fun n => if n = name then mtu else h.mtus n }

def find? (descriptor : Descriptor) (h : Host) : Option OpenDescriptor :=
  h.live.find? (·.descriptor == descriptor)

/-- Change what is known of a descriptor. -/
def update (descriptor : Descriptor) (change : OpenDescriptor → OpenDescriptor) (h : Host) :
    Host :=
  { h with live := h.live.map fun d => if d.descriptor = descriptor then change d else d }

/-- Open a descriptor unless the request is refused. -/
def openDescriptor (request : Request) (call : Except Errno Descriptor → Call)
    (endpoint : Endpoint) (closeOnExec : Bool) : StateM Host (Except Errno Descriptor) := fun h =>
  match h.refusal? request with
  | some cause => (.error cause, h.record (call (.error cause)))
  | none =>
    (.ok h.next, { h.record (call (.ok h.next)) with
      live := ⟨h.next, endpoint, closeOnExec⟩ :: h.live
      next := h.next + 1 })

/-- Why a unit can not be bound: the script's reason, or that it is occupied. -/
def bindRefusal? (unit : UInt32) (h : Host) : Option Errno :=
  match h.refusal? (.bind unit) with
  | some cause => some cause
  | none => if h.occupied unit then some .busy else none

/-- Bind a descriptor to a unit and occupy the unit. -/
def bindUnit (descriptor : Descriptor) (unit : UInt32) (call : Option Errno → Call) :
    StateM Host (Except Errno Unit) := fun h =>
  match h.bindRefusal? unit with
  | some cause => (.error cause, h.record (call (some cause)))
  | none =>
    let bound := (h.record (call none)).update descriptor fun d =>
      { d with endpoint := .tunnel (some unit) }
    (.ok (), bound.occupy unit)

/-- Make a call that only succeeds or is refused. -/
def ask (request : Request) (call : Option Errno → Call) : StateM Host (Except Errno Unit) :=
  fun h =>
    let refusal := h.refusal? request
    match refusal with
    | some cause => (.error cause, h.record (call refusal))
    | none => (.ok (), h.record (call refusal))

/-! ## Calls on descriptors -/

/-- Close a descriptor. The interface of a bound one is gone with it. -/
def close (descriptor : Descriptor) : StateM Host Unit := fun h =>
  match h.find? descriptor with
  | none => ((), h.record (.close descriptor none))
  | some d =>
    let closed := { h.record (.close descriptor (some d.endpoint)) with
      live := h.live.filter (·.descriptor != descriptor) }
    match d.endpoint with
    | .tunnel (some unit) => ((), closed.vacate unit)
    | _ => ((), closed)

/-- Have a descriptor closed in programs that are started later. -/
def setCloseOnExec (descriptor : Descriptor) : StateM Host (Except Errno Unit) := fun h =>
  match h.refusal? .closeOnExec with
  | some cause => (.error cause, h.record (.closeOnExec descriptor (some cause)))
  | none =>
    (.ok (), (h.record (.closeOnExec descriptor none)).update descriptor fun d =>
      { d with closeOnExec := true })

/-! ## Raw sockets -/

/-- Open a raw ICMP socket, to be closed in programs that are started later. -/
def openRawSocket : StateM Host (Except Errno Descriptor) :=
  openDescriptor .openRawSocket .openRawSocket .raw true

/-- Have packets come with an IP header of their own. -/
def includeHeader (socket : Descriptor) : StateM Host (Except Errno Unit) :=
  ask .includeHeader (.includeHeader socket)

def makeNonblocking (socket : Descriptor) : StateM Host (Except Errno Unit) :=
  ask .makeNonblocking (.makeNonblocking socket)

/-- Have the event loop watch whether there is something to read. -/
def registerReadiness (socket : Descriptor) : StateM Host (Except Errno Unit) :=
  ask .registerReadiness (.registerReadiness socket)

/-- Have the socket refuse to fragment, from now on. -/
def forbidFragmenting (socket : Descriptor) : StateM Host (Except Errno Unit) :=
  ask .forbidFragmenting (.forbidFragmenting socket)

/-- Send a packet. The answer is how many of its bytes were sent. -/
def sendTo (socket : Descriptor) (destination : Address) (port : UInt16) (packet : List UInt8) :
    StateM Host (Except Errno Nat) := fun h =>
  let result := h.script.sent h.log packet
  (result, h.record (.sendTo socket destination port packet result))

/-! ## Tunnel devices -/

/-- Open the tunnel device, to be closed in programs that are started later. -/
def openTunnelDevice : StateM Host (Except Errno Descriptor) :=
  openDescriptor .openTunnelDevice .openTunnelDevice (.tunnel none) true

/-- The unit that the name of a tunnel interface ends in. -/
def unitOfName? (name : InterfaceName) : Option UInt32 :=
  match name.text.toList with
  | 't' :: 'u' :: 'n' :: digits =>
    match Numeral.readNat (UInt32.size - 1) digits with
    | .ok n => some n.toUInt32
    | .error _ => none
  | _ => none

/-- Attach a tunnel device to the interface of a name, which must not exist. -/
def attachInterface (descriptor : Descriptor) (name : InterfaceName) (flags : UInt16) :
    StateM Host (Except Errno Unit) := fun h =>
  let call := Call.attachInterface descriptor name flags
  match unitOfName? name with
  | none => (.error .noSuchDevice, h.record (call (some .noSuchDevice)))
  | some unit => bindUnit descriptor unit call h

/-! ## Control sockets -/

def openControlSocket : StateM Host (Except Errno Descriptor) :=
  openDescriptor .openControlSocket .openControlSocket (.tunnel none) false

/-- The number of the kernel control of a name. -/
def lookUpControl (socket : Descriptor) (name : String) : StateM Host (Except Errno UInt32) := fun h =>
  match h.refusal? .lookUpControl with
  | some cause => (.error cause, h.record (.lookUpControl socket name (.error cause)))
  | none =>
    let id := h.script.controlId h.log
    (.ok id, h.record (.lookUpControl socket name (.ok id)))

/-- Connect a control socket, which binds it to a unit. -/
def connectControl (socket : Descriptor) (address : ControlAddress) :
    StateM Host (Except Errno Unit) := fun h =>
  let closeOnExec := (h.find? socket).any (·.closeOnExec)
  bindUnit socket address.unit (.connectControl socket address closeOnExec) h

/-! ## MTUs -/

/-- Open a datagram socket, to be closed in programs that are started later. -/
def openDatagramSocket : StateM Host (Except Errno Descriptor) :=
  openDescriptor .openDatagramSocket .openDatagramSocket .datagram true

def getMtu (socket : Descriptor) (name : InterfaceName) : StateM Host (Except Errno Int32) := fun h =>
  match h.refusal? (.getMtu name.content) with
  | some cause => (.error cause, h.record (.getMtu socket name (.error cause)))
  | none =>
    let mtu := h.mtus name.content
    (.ok mtu, h.record (.getMtu socket name (.ok mtu)))

def setMtu (socket : Descriptor) (name : InterfaceName) (mtu : Int32) : StateM Host (Except Errno Unit) := fun h =>
  match h.refusal? (.setMtu name.content) with
  | some cause => (.error cause, h.record (.setMtu socket name mtu (some cause)))
  | none => (.ok (), (h.record (.setMtu socket name mtu none)).assignMtu name.content mtu)

end Host

end PingTun
