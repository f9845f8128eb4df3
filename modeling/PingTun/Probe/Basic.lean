-- SUMMARY: Probes: opening and dropping them, and what they work on.
import PingTun.Host.Basic
import PingTun.Probe.Inbox
import PingTun.Probe.Simulation

/-! # Probes

A probe sends echo requests and reports which addresses replied. That no raw socket can be opened,
most often for want of privileges, is not an error: such a probe sends and receives nothing.
-/

namespace PingTun

/-- What a probe works on. -/
inductive Probe.Backend
  | socket (descriptor : Descriptor) (inbox : Inbox)
  | failed
  | simulated (simulation : Simulation)

structure Probe where
  identifier : UInt16
  /-- The sequence number of the next request. -/
  nextSequence : UInt16 := 0
  backend : Probe.Backend

namespace Probe

def state (p : Probe) : State :=
  match p.backend with
  | .socket .. => .socketOpen
  | .failed => .socketFailed
  | .simulated _ => .simulated

/-! ## Opening -/

/-- Make a raw socket fit for a probe, which brings its own IP headers to control fragmenting. -/
def prepare (socket : Descriptor) : StateM Host (Except Errno Unit) := do
  match ← Host.includeHeader socket with
  | .error cause => return .error cause
  | .ok () =>
    match ← Host.makeNonblocking socket with
    | .error cause => return .error cause
    | .ok () => Host.registerReadiness socket

def openSocket : StateM Host (Except Errno Descriptor) := do
  match ← Host.openRawSocket with
  | .error cause => return .error cause
  | .ok socket =>
    match ← prepare socket with
    | .ok () => return .ok socket
    | .error cause =>
      Host.close socket
      return .error cause

/-- What a new probe works on. Neither sockets nor timers can do without an event loop. -/
def openBackend (eventLoop : EventLoop) (config : ProbeConfig) :
    StateM Host (Backend × List Event) := do
  if !eventLoop.running then
    return (.failed, [.noRuntime config.simulate])
  else if config.simulate then
    return (.simulated (.ofConfig config), [])
  else
    match ← openSocket with
    | .ok socket => return (.socket socket {}, [])
    | .error _ => return (.failed, [.socketRefused])

/-- Open a probe with an identifier of its own. -/
def «open» (eventLoop : EventLoop) (config : ProbeConfig) (identifier : UInt16) :
    StateM Host (Probe × List Event) := do
  let (backend, events) ← openBackend eventLoop config
  let probe : Probe := { identifier, backend }
  return (probe, events ++ [.probeCreated identifier probe.state])

/-- Give up a probe, which closes its socket. -/
def drop (p : Probe) : StateM Host Unit :=
  match p.backend with
  | .socket socket _ => Host.close socket
  | _ => pure ()

/-! ## Arrivals -/

/-- Something arrives at the probe's socket, if it has one. -/
def arrive (p : Probe) (arrivals : List Arrival) : Probe :=
  match p.backend with
  | .socket socket inbox => { p with backend := .socket socket (inbox.arrive arrivals) }
  | _ => p

end Probe

/-- The configuration of probes with simulated replies. -/
def ProbeConfig.simulated : ProbeConfig := { simulate := true }

end PingTun
