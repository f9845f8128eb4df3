-- SUMMARY: Sending echo requests.
import PingTun.Probe.Basic

/-! # Sending

A request is sent once, without blocking, or not at all; failures are logged and may be tried
again by the caller. Every request that fits into a datagram uses up a sequence number, whether it
is sent or not.
-/

namespace PingTun

/-- What a caller asks a probe to send. -/
structure Ping where
  address : Address
  payloadSize : UInt64
  allowFragment : Bool
deriving DecidableEq, Repr

namespace Probe

/-- The request that stands for a ping at this point. -/
def request (p : Probe) (ping : Ping) : Echo.Request where
  destination := ping.address
  identifier := p.identifier
  sequence := p.nextSequence
  payloadSize := ping.payloadSize
  dontFragment := !ping.allowFragment

/-- Hand a packet to the system, in whole or not at all. If it must not be fragmented, the socket
has to refuse that too. -/
def transmit (socket : Descriptor) (packet : List UInt8) (ping : Ping) :
    StateM Host (Except Echo.SendError Unit) := do
  let permitted ← if ping.allowFragment then pure (.ok ()) else Host.forbidFragmenting socket
  match permitted with
  | .error cause => return .error (.dontFragment cause)
  | .ok () =>
    -- ICMP has no ports.
    match ← Host.sendTo socket ping.address 0 packet with
    | .ok sent =>
      return if sent = packet.length then .ok () else .error (.shortWrite sent packet.length)
    | .error cause =>
      return .error (if cause = .again then .wouldBlock else .send cause)

/-- The events of a ping that was not sent. That there is no socket was logged when it was not
opened. -/
def sendEvents (ping : Ping) : Except Echo.SendError Unit → List Event
  | .ok () | .error .noSocket => []
  | .error .wouldBlock => [.sendBlocked ping.address]
  | .error _ => [.sendFailed ping.address ping.payloadSize]

/-- Hand the packet of a ping to the backend. -/
@[inline] def dispatch (time : Nat) (backend : Backend) (packet : List UInt8) (ping : Ping) :
    StateM Host (Except Echo.SendError Unit × Backend × List Event) := do
  match backend with
  | .failed => return (.error .noSocket, .failed, [])
  | .socket socket inbox =>
    return (← transmit socket packet ping, .socket socket inbox, [])
  | .simulated simulation =>
    let (simulation, event) := simulation.schedule time ping.address
    return (.ok (), .simulated simulation, [event])

/-- Try to send a ping at a time of the event loop and of the wall clock, and give the reason if
it is not sent. -/
def attempt (time : Nat) (now : Echo.Instant) (ping : Ping) (p : Probe) :
    StateM Host (Except Echo.SendError Unit × Probe × List Event) := do
  match p.backend with
  | .failed => return (.error .noSocket, p, [])
  | backend =>
    match (p.request ping).encode now with
    | .error e => return (.error e, p, [])
    | .ok packet =>
      let (result, backend, events) ← dispatch time backend packet ping
      return (result, { p with nextSequence := p.nextSequence + 1, backend }, events)

/-- Send a ping while the event loop is running. The answer is whether it was sent. -/
def sendAt (time : Nat) (now : Echo.Instant) (ping : Ping) (p : Probe) :
    StateM Host (Bool × Probe × List Event) := do
  let (result, p, events) ← p.attempt time now ping
  return (result.isOk, p, events ++ sendEvents ping result)

/-- Whether sending a ping needs a new timer. -/
def needsTimer (ping : Ping) (p : Probe) : Bool :=
  match p.backend with
  | .simulated simulation =>
    ping.payloadSize.toNat ≤ Echo.maxPayload && simulation.needsTimer ping.address
  | _ => false

/-- Send a ping. Once the event loop is gone, no timer can be set. -/
def send (eventLoop : EventLoop) (now : Echo.Instant) (ping : Ping) (p : Probe) :
    StateM Host (Except Abort (Bool × Probe × List Event)) := do
  if !eventLoop.running && p.needsTimer ping then return .error .timerSet
  else return .ok (← p.sendAt eventLoop.now now ping)

end Probe

end PingTun
