-- SUMMARY: The ways in which sending an echo request fails.
import PingTun.Errno

namespace PingTun.Echo

/-- Why an echo request was not sent. -/
inductive SendError
  | noSocket
  | payloadTooLarge (payloadSize : Nat)
  | dontFragment (cause : Errno)
  | wouldBlock
  | send (cause : Errno)
  | shortWrite (sent expected : Nat)
deriving DecidableEq, Repr

def SendError.message : SendError → String
  | .noSocket => "no raw socket"
  | .payloadTooLarge payloadSize =>
    "payload of " ++ Numeral.text payloadSize ++ " bytes does not fit into an IPv4 datagram"
  | .dontFragment cause => "could not enforce don't fragment: " ++ cause.message
  | .wouldBlock => "send would have blocked"
  | .send cause => "send failed: " ++ cause.message
  | .shortWrite sent expected =>
    "only sent " ++ Numeral.text sent ++ " of " ++ Numeral.text expected ++ " bytes"

end PingTun.Echo
