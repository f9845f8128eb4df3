-- SUMMARY: The echo reply that a host gives to a request, and what a probe makes of it.
import PingTun.Probe.Inbox
import PingTun.Proofs.Echo.Verdicts

/-! # Answers

Whoever is asked for an echo sends the message back to where it came from: it is marked as a reply,
its checksum is computed anew, and it gets an IPv4 header of its own. What else is in that header is
up to the host and the way back. A probe takes the answer to its own request for a reply, even if
most of it did not fit into the receive buffer.
-/

namespace PingTun.Echo

/-! ## Answers -/

/-- The parts of an answer's IPv4 header that the request has no say in. -/
structure Envelope where
  service : UInt8
  length : UInt16
  identification : UInt16
  fragmentWord : UInt16
  timeToLive : UInt8
  checksum : UInt16
  destination : Address

/-- The IPv4 header of an answer from a source, which is given by its octets. -/
def Envelope.header (e : Envelope) (source : List UInt8) : List UInt8 :=
  [0x45, e.service] ++ Bytes.ofWord e.length ++ Bytes.ofWord e.identification ++
    Bytes.ofWord e.fragmentWord ++ [e.timeToLive, icmpProtocol] ++ Bytes.ofWord e.checksum ++
    source ++ e.destination.octets

/-- An ICMP message sent back as a reply. Behind the checksum nothing is changed. -/
def replyMessage (message : List UInt8) : List UInt8 :=
  let echoed := message.drop 4
  [replyType, 0] ++
    Bytes.ofWord (Checksum.onesComplement ([replyType, 0, 0, 0] ++ echoed)) ++ echoed

/-- The datagram that answers a packet. It comes from where the packet was sent to. -/
def answer (e : Envelope) (packet : List UInt8) : List UInt8 :=
  e.header ((packet.drop 16).take 4) ++ replyMessage (packet.drop ipHeaderLength)

/-! ## Reading answers -/

/-- The first eight bytes of a reply. -/
def replyHeader (checksum identifier sequence : UInt16) : List UInt8 :=
  [replyType, 0] ++ Bytes.ofWord checksum ++ Bytes.ofWord identifier ++ Bytes.ofWord sequence

theorem Envelope.plain_header (e : Envelope) (source : Address) : Plain (e.header source.octets) :=
  ⟨rfl, rfl, rfl⟩

theorem parse_reply (e : Envelope) (source : Address) (checksum identifier sequence : UInt16)
    (rest : List UInt8) :
    Reply.parse (e.header source.octets ++ (replyHeader checksum identifier sequence ++ rest)) =
      .ok { source, icmpType := replyType, code := 0, identifier, sequence
            checksumValid :=
              Checksum.internet (replyHeader checksum identifier sequence ++ rest) == 0 } := by
  let message := replyHeader checksum identifier sequence ++ rest
  have hroom : 8 ≤ message.length := Nat.le_add_left 8 rest.length
  have hfits : ¬ Misfit message :=
    fits_of_ne (by change replyType ≠ 13; decide) (by change replyType ≠ 14; decide)
  rw [Reply.parse_of_framed ((e.plain_header source).framed_append message hroom),
    (e.plain_header source).messageOf_append, if_neg hfits]
  have hsource : sourceOf (e.header source.octets ++ message) = source := rfl
  rw [hsource]
  exact congrArg Except.ok (fieldsOf_append source replyType 0 checksum identifier sequence rest)

/-- What a probe makes of the answer to its request. The checksum is looked at over what was
received. -/
theorem replySource_answer_eq (e : Envelope) (r : Request) (now : Instant) :
    replySource r.identifier ((answer e (r.ipHeader ++ r.message now)).take 2048) =
      (some r.destination,
        if Checksum.internet ((replyMessage (r.message now)).take 2028) = 0 then []
        else [.corruptReceived r.destination]) := by
  obtain ⟨checksum, hmessage⟩ : ∃ checksum, (replyMessage (r.message now)).take 2028 =
      replyHeader checksum r.identifier r.sequence ++ (r.payload now).take 2020 := ⟨_, rfl⟩
  have htake : (answer e (r.ipHeader ++ r.message now)).take 2048 =
      e.header r.destination.octets ++ (replyMessage (r.message now)).take 2028 := rfl
  rw [htake, hmessage, replySource, parse_reply]
  simp [Reply.isReplyTo]

/-- A probe takes the answer to its request for a reply from the address that it was sent to. -/
theorem replySource_answer (e : Envelope) (r : Request) (now : Instant) :
    (replySource r.identifier ((answer e (r.ipHeader ++ r.message now)).take 2048)).1 =
      some r.destination := by
  rw [replySource_answer_eq]

end PingTun.Echo
