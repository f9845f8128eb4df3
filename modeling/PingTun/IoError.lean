-- SUMMARY: Errors of input and output: refusals by the system, and the library's own.
import PingTun.Errno
import PingTun.Text.Quoted

namespace PingTun

/-- Why an operation on files, sockets or interfaces failed. -/
inductive IoError
  | os (cause : Errno)
  | invalidInterfaceName (name : String)
  | mtuOutOfRange
  | negativeMtu
  | unspecificUnit
  | invalidHandle
  | nulInPath
deriving DecidableEq, Repr

namespace IoError

def kind : IoError → ErrorKind
  | .os cause => cause.kind
  | .invalidInterfaceName _ | .mtuOutOfRange | .unspecificUnit | .nulInPath => .invalidInput
  | .negativeMtu => .invalidData
  | .invalidHandle => .notConnected

def message : IoError → String
  | .os cause => cause.message
  | .invalidInterfaceName name => "invalid interface name " ++ Text.quoted name
  | .mtuOutOfRange => "mtu out of range"
  | .negativeMtu => "negative mtu"
  | .unspecificUnit => "utun unit 0 is not a specific interface"
  | .invalidHandle => "invalid tunnel handle"
  | .nulInPath => "file name contained an unexpected NUL byte"

end IoError

end PingTun
