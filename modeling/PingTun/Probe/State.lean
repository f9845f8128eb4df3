-- SUMMARY: The states a probe can be in.

namespace PingTun

/-- What a probe works on: an open raw socket, nothing because the socket could not be opened, or
simulated replies. -/
inductive Probe.State
  | socketOpen
  | socketFailed
  | simulated
deriving DecidableEq, Repr

namespace Probe.State

def name : Probe.State → String
  | .socketOpen => "socket_open"
  | .socketFailed => "socket_failed"
  | .simulated => "simulated"

def all : List Probe.State := [.socketOpen, .socketFailed, .simulated]

end Probe.State

end PingTun
