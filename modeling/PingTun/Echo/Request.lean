-- SUMMARY: ICMP echo requests as IPv4 datagrams for a raw socket.
import PingTun.Address
import PingTun.Bytes
import PingTun.Checksum
import PingTun.Echo.SendError

/-! # Echo requests

A request is laid out as a whole IPv4 datagram. The source address, the header checksum and so on
are left to the kernel. The payload counts up byte by byte, and the time of sending is written
over its beginning, as far as it has room for it.
-/

namespace PingTun.Echo

/-! ## Sizes and codes -/

def ipHeaderLength : Nat := 20

def messageHeaderLength : Nat := 8

/-- The longest payload with which a datagram still has a 16-bit length. -/
def maxPayload : Nat := 65535 - ipHeaderLength - messageHeaderLength

def icmpProtocol : UInt8 := 1

def replyType : UInt8 := 0

def requestType : UInt8 := 8

def timeToLive : UInt8 := 255

/-- The flag of the fragment word that forbids to fragment. -/
def dontFragmentFlag : UInt16 := 0x4000

/-! ## Time of sending -/

/-- A time of the wall clock, relative to the beginning of 1970. -/
structure Instant where
  seconds : Int
  nanoseconds : Nat
deriving DecidableEq, Repr, Inhabited

namespace Instant

def epoch : Instant := ⟨0, 0⟩

/-- Seconds and microseconds since the epoch, least significant byte first; zero before it. -/
def timestamp (now : Instant) : List UInt8 :=
  if now.seconds < 0 then
    Bytes.littleEndian 0 ++ Bytes.littleEndian 0
  else
    Bytes.littleEndian now.seconds.toNat.toUInt64 ++
      Bytes.littleEndian (now.nanoseconds / 1000).toUInt64

@[simp] theorem length_timestamp (now : Instant) : now.timestamp.length = 16 := by
  unfold timestamp
  split <;> simp

end Instant

/-! ## Requests -/

structure Request where
  destination : Address
  identifier : UInt16
  sequence : UInt16
  payloadSize : UInt64
  dontFragment : Bool
deriving DecidableEq, Repr

namespace Request

/-- The length of the datagram, in the 64-bit arithmetic of sizes. -/
def packetLength (r : Request) : UInt64 := 28 + r.payloadSize

/-- The fragment word: no offset, and the flag if fragmenting is forbidden. -/
def fragmentWord (r : Request) : UInt16 := if r.dontFragment then dontFragmentFlag else 0

def ipHeader (r : Request) : List UInt8 :=
  [0x45, 0] ++ Bytes.ofWord r.packetLength.toUInt16 ++ Bytes.ofWord r.identifier ++
    Bytes.ofWord r.fragmentWord ++ [timeToLive, icmpProtocol, 0, 0] ++ [0, 0, 0, 0] ++
    r.destination.octets

/-- The payload: the time of sending, then bytes that give their own position. -/
def payload (r : Request) (now : Instant) : List UInt8 :=
  let size := r.payloadSize.toNat
  now.timestamp.take size ++ (List.range' 16 (size - 16)).map Nat.toUInt8

/-- The message header with a given checksum. -/
def messageHeader (r : Request) (checksum : UInt16) : List UInt8 :=
  [requestType, 0] ++ Bytes.ofWord checksum ++ Bytes.ofWord r.identifier ++
    Bytes.ofWord r.sequence

/-- The ICMP message, its checksum computed with zero in the checksum's place. -/
def message (r : Request) (now : Instant) : List UInt8 :=
  let payload := r.payload now
  r.messageHeader (Checksum.onesComplement (r.messageHeader 0 ++ payload)) ++ payload

/-- The datagram of a request, unless its payload is too long. -/
@[inline] def encode (r : Request) (now : Instant) : Except SendError (List UInt8) :=
  if maxPayload < r.payloadSize.toNat then .error (.payloadTooLarge r.payloadSize.toNat)
  else .ok (r.ipHeader ++ r.message now)

@[simp] theorem length_ipHeader (r : Request) : r.ipHeader.length = ipHeaderLength := rfl

@[simp] theorem length_messageHeader (r : Request) (checksum : UInt16) :
    (r.messageHeader checksum).length = messageHeaderLength := rfl

@[simp] theorem length_payload (r : Request) (now : Instant) :
    (r.payload now).length = r.payloadSize.toNat := by
  simp only [payload, List.length_append, List.length_take, List.length_map, List.length_range',
    Instant.length_timestamp]
  omega

end Request

end PingTun.Echo
