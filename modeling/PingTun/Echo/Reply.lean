-- SUMMARY: Inbound datagrams read as ICMP messages, and which of them answer a probe.
import PingTun.Address
import PingTun.Bytes
import PingTun.Checksum
import PingTun.Echo.Request

/-! # Echo replies

A datagram as a raw socket hands it up, IPv4 header included. Its structure is checked from the
outside in: length, version, header length, protocol, and last the ICMP message itself. The total
length field is ignored, since some kernels change it on the way up.
-/

namespace PingTun.Echo

/-- Why a datagram holds no ICMP message. -/
inductive Malformed
  | truncated (read : Nat)
  | notIpv4 (version : Nat)
  | badHeaderLength (headerLength read : Nat)
  | notIcmp (protocol : Nat)
deriving DecidableEq, Repr

namespace Malformed

/-- The short name of a reason. -/
def reason : Malformed → String
  | .truncated _ => "truncated"
  | .notIpv4 _ => "not_ipv4"
  | .badHeaderLength _ _ => "bad_header_length"
  | .notIcmp _ => "not_icmp"

def message : Malformed → String
  | .truncated read => "read incomplete packet of " ++ Numeral.text read ++ " bytes"
  | .notIpv4 version => "invalid IPv4 version " ++ Numeral.text version
  | .badHeaderLength headerLength read =>
    "invalid IP header length " ++ Numeral.text headerLength ++ " (read " ++ Numeral.text read ++
      " bytes)"
  | .notIcmp protocol => "non-ICMP packet with protocol " ++ Numeral.text protocol

end Malformed

/-- The fields of an ICMP message in a well-formed datagram. -/
structure Reply where
  source : Address
  icmpType : UInt8
  code : UInt8
  identifier : UInt16
  sequence : UInt16
  checksumValid : Bool
deriving DecidableEq, Repr

namespace Reply

/-- Messages of the timestamp types, with code zero, have a fixed length. -/
def hasTimestampShape (icmpType code : UInt8) : Bool :=
  (icmpType == 13 || icmpType == 14) && code == 0

/-- Read an ICMP message, unless it is shorter than a message header or not of its type's length. -/
def ofMessage? (source : Address) (message : List UInt8) : Option Reply :=
  match message with
  | icmpType :: code :: _ :: _ :: idHigh :: idLow :: seqHigh :: seqLow :: _ =>
    if hasTimestampShape icmpType code ∧ message.length ≠ 20 then none
    else some {
      source, icmpType, code
      identifier := Bytes.toWord idHigh idLow
      sequence := Bytes.toWord seqHigh seqLow
      checksumValid := Checksum.internet message == 0 }
  | _ => none

/-- Read a datagram, IPv4 header included. -/
def parse (datagram : List UInt8) : Except Malformed Reply :=
  let read := datagram.length
  if h : read < ipHeaderLength then .error (.truncated read)
  else
    have : 20 ≤ datagram.length := Nat.le_of_not_lt h
    let version := datagram[0] / 16
    let headerLength := (datagram[0] % 16).toNat * 4
    let protocol := datagram[9]
    let source : Address := ⟨datagram[12], datagram[13], datagram[14], datagram[15]⟩
    if version ≠ 4 then .error (.notIpv4 version.toNat)
    else if headerLength < ipHeaderLength ∨ read < headerLength + messageHeaderLength then
      .error (.badHeaderLength headerLength read)
    else if protocol ≠ icmpProtocol then .error (.notIcmp protocol.toNat)
    else
      match ofMessage? source (datagram.drop headerLength) with
      | some reply => .ok reply
      | none => .error (.badHeaderLength headerLength read)

/-- Whether a message is an echo reply to the probe of an identifier. -/
def isReplyTo (r : Reply) (identifier : UInt16) : Bool :=
  r.icmpType == replyType && r.code == 0 && r.identifier == identifier

end Reply

end PingTun.Echo
