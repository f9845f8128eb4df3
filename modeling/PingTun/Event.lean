-- SUMMARY: The events that are logged: their levels, identifiers, texts and fields.
import PingTun.Echo.Reply
import PingTun.Probe.State

/-! # Logged events

Every event has a fixed identifier, level and text, and carries what it is about as fields.
-/

namespace PingTun

/-- What happened. -/
inductive Event
  | noConfigFile
  | configRejected
  | noRuntime (simulate : Bool)
  | socketRefused
  | probeCreated (identifier : UInt16) (state : Probe.State)
  | sendBlocked (address : Address)
  | sendFailed (address : Address) (payloadSize : UInt64)
  | readinessLost
  | receiveFailed
  | datagramDiscarded (cause : Echo.Malformed)
  | corruptReceived (source : Address)
  | replyWithheld (address : Address)
  | replyScheduled (address : Address) (delay : Nat)
  | tunnelOpened (unit : UInt32) (name : String)
  | unitUnavailable (unit : UInt32)
  | unitsExhausted (first last : UInt32)
  | mtuUnknown (name : String)
  | mtuRefused (name : String) (mtu : UInt32)
deriving DecidableEq, Repr

namespace Event

/-! ## Levels -/

inductive Level
  | debug
  | info
  | warn
  | error
deriving DecidableEq, Repr

def Level.name : Level → String
  | .debug => "debug"
  | .info => "info"
  | .warn => "warn"
  | .error => "error"

def level : Event → Level
  | .noConfigFile | .probeCreated .. | .tunnelOpened .. => .info
  | .configRejected | .readinessLost => .error
  | .replyWithheld .. | .replyScheduled .. | .unitUnavailable .. => .debug
  | _ => .warn

/-! ## Texts -/

def messageId : Event → String
  | .noConfigFile => "Jq3vWn0e"
  | .configRejected => "a8GtkL2s"
  | .noRuntime .. => "Ue4jNc7h"
  | .socketRefused => "Bq0nXa5r"
  | .probeCreated .. => "Wc2fUo7j"
  | .sendBlocked .. => "Hs8dLq3v"
  | .sendFailed .. => "Ny5cEw0p"
  | .readinessLost => "Vf3pJm9t"
  | .receiveFailed => "Kt7gRz2e"
  | .datagramDiscarded .. => "Dp6yTb1c"
  | .corruptReceived .. => "Rg4hMx8s"
  | .replyWithheld .. => "Zr4kVb8n"
  | .replyScheduled .. => "Tm1sHc6w"
  | .tunnelOpened .. => "pV2rYc8d"
  | .unitUnavailable .. => "e0HmTq4z"
  | .unitsExhausted .. => "Qx7uKs1B"
  | .mtuUnknown .. => "Gd5oNw3f"
  | .mtuRefused .. => "iL9bXe6k"

def message : Event → String
  | .noConfigFile => "no config file, using defaults"
  | .configRejected => "failed to parse config"
  | .noRuntime .. => "no runtime for ICMP probe"
  | .socketRefused => "failed to open ICMP socket"
  | .probeCreated .. => "created ICMP probe"
  | .sendBlocked .. => "failed to ping, would have blocked"
  | .sendFailed .. => "failed to ping"
  | .readinessLost => "failed to wait for ICMP socket readiness"
  | .receiveFailed => "failed to read from ICMP socket"
  | .datagramDiscarded .. => "discarding malformed ICMP packet"
  | .corruptReceived .. => "received corrupt ICMP packet"
  | .replyWithheld .. => "simulating ping without reply"
  | .replyScheduled .. => "simulating ping"
  | .tunnelOpened .. => "opened tunnel interface"
  | .unitUnavailable .. => "tunnel unit unavailable"
  | .unitsExhausted .. => "could not open tunnel interface in unit range"
  | .mtuUnknown .. => "failed to get tunnel mtu"
  | .mtuRefused .. => "failed to set tunnel mtu"

/-! ## Fields -/

/-- The value of a field. -/
inductive Value
  | number (n : Nat)
  | flag (b : Bool)
  | text (s : String)
deriving DecidableEq, Repr

def fields : Event → List (String × Value)
  | .noConfigFile | .configRejected | .socketRefused | .readinessLost | .receiveFailed => []
  | .noRuntime simulate => [("simulate", .flag simulate)]
  | .probeCreated identifier state =>
    [("identifier", .number identifier.toNat), ("state", .text state.name)]
  | .sendBlocked address => [("address", .text address.text)]
  | .sendFailed address payloadSize =>
    [("address", .text address.text), ("payload_size", .number payloadSize.toNat)]
  | .datagramDiscarded cause => [("reason", .text cause.reason), ("error", .text cause.message)]
  | .corruptReceived source => [("source", .text source.text)]
  | .replyWithheld address => [("address", .text address.text)]
  | .replyScheduled address delay =>
    [("address", .text address.text), ("delay_ms", .number delay)]
  | .tunnelOpened unit name => [("unit", .number unit.toNat), ("name", .text name)]
  | .unitUnavailable unit => [("unit", .number unit.toNat)]
  | .unitsExhausted first last =>
    [("first_unit", .number first.toNat), ("last_unit", .number last.toNat)]
  | .mtuUnknown name => [("name", .text name)]
  | .mtuRefused name mtu => [("name", .text name), ("mtu", .number mtu.toNat)]

end Event

end PingTun
