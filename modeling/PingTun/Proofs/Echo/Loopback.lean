-- SUMMARY: A probe's own requests when they come back: intact messages, and replies to nobody.
import PingTun.Proofs.Checksum.Storing
import PingTun.Proofs.Echo.Corruption

/-! # Requests that come back

On the way to a host of its own a request passes the system, which fills in parts of the IPv4
header, and is handed up to every raw socket, the sender's too. It is read for what it is, with its
checksum in order, and no probe takes it for a reply or says a word about it.
-/

namespace PingTun.Echo

/-! ## What the system fills in -/

/-- The offsets of the total length, the identification, the header checksum and the source. -/
def systemOffsets : List Nat := [2, 3, 4, 5, 10, 11, 12, 13, 14, 15]

/-- Bytes in front of a message do not tell what it is, but for the two of the envelope. -/
theorem SameBut.messageOf_eq {offsets : List Nat} {d e : List UInt8} (h : SameBut offsets d e)
    (hfirst : 0 ∉ offsets) (hfront : ∀ offset ∈ offsets, offset < headerLength d) :
    messageOf e = messageOf d := by
  have hheader : headerLength e = headerLength d := by
    rw [headerLength, headerLength, h.elsewhere 0 hfirst]
  have hlength : (messageOf e).length = (messageOf d).length := by
    rw [length_messageOf, length_messageOf, h.length, hheader]
  refine eq_of_byteAt hlength fun offset => ?_
  rw [byteAt_messageOf, byteAt_messageOf, hheader]
  exact h.elsewhere _ fun hmem => Nat.not_lt.mpr (Nat.le_add_right ..) (hfront _ hmem)

namespace Request

variable (r : Request) (now : Instant)

/-! ## Requests as they are sent -/

/-- The datagram of a request whose payload fits. -/
def datagram : List UInt8 := r.ipHeader ++ r.message now

theorem encode_of_le (h : r.payloadSize.toNat ≤ 65507) :
    r.encode now = .ok (r.datagram now) :=
  if_neg (Nat.not_lt.mpr h)

theorem plain_ipHeader : Plain r.ipHeader := ⟨rfl, rfl, rfl⟩

theorem length_message : (r.message now).length = r.payloadSize.toNat + 8 :=
  congrArg (· + 8) (r.length_payload now)

theorem messageOf_datagram : messageOf (r.datagram now) = r.message now :=
  r.plain_ipHeader.messageOf_append _

theorem framed_datagram : Framed (r.datagram now) := by
  refine r.plain_ipHeader.framed_append _ ?_
  rw [length_message]
  exact Nat.le_add_left ..

/-! ## Checksums -/

/-- The message of a request with nothing in its checksum's place. -/
def blankMessage : List UInt8 := r.messageHeader 0 ++ r.payload now

theorem store_message : Bytes.store (r.message now) 2 0 = r.blankMessage now := rfl

theorem length_blankMessage : (r.blankMessage now).length = r.payloadSize.toNat + 8 :=
  congrArg (· + 8) (r.length_payload now)

variable {r}

/-- The checksum in a request is the one that its reader computes. -/
theorem onesComplement_blankMessage (h : r.payloadSize.toNat ≤ 65507) :
    Checksum.onesComplement (r.blankMessage now) = Checksum.internet (r.blankMessage now) := by
  refine (Checksum.internet_eq_onesComplement ?_).symm
  rw [length_blankMessage]
  omega

theorem message_eq (h : r.payloadSize.toNat ≤ 65507) :
    r.message now =
      Bytes.store (r.blankMessage now) 2 (Checksum.internet (r.blankMessage now)) := by
  rw [← onesComplement_blankMessage now h]
  rfl

/-- With its checksum in place a request adds up. -/
theorem internet_message (h : r.payloadSize.toNat ≤ 65507) :
    Checksum.internet (r.message now) = 0 := by
  have hroom : 2 * 1 + 1 < (r.blankMessage now).length := by
    rw [length_blankMessage]
    omega
  rw [message_eq now h]
  exact Checksum.internet_of_wordSum (Checksum.wordSum_store hroom rfl _)

/-! ## Reading requests -/

theorem fieldsOf_message (h : r.payloadSize.toNat ≤ 65507) (source : Address) :
    fieldsOf source (r.message now) =
      { source, icmpType := 8, code := 0, identifier := r.identifier, sequence := r.sequence
        checksumValid := true } := by
  have hvalid : (Checksum.internet (r.message now) == 0) = true := by
    rw [internet_message now h]
    rfl
  rw [← hvalid]
  exact fieldsOf_append source requestType 0 _ r.identifier r.sequence (r.payload now)

/-- A request is no timestamp. -/
theorem fits_message (r : Request) (now : Instant) : ¬ Misfit (r.message now) :=
  fits_of_ne (by change (8 : UInt8) ≠ 13; decide) (by change (8 : UInt8) ≠ 14; decide)

/-- What is read of a request, whatever the system has filled in. -/
theorem parse_of_sameBut {e : List UInt8} (hsame : SameBut systemOffsets (r.datagram now) e)
    (h : r.payloadSize.toNat ≤ 65507) :
    Reply.parse e = .ok {
      source := sourceOf e, icmpType := 8, code := 0, identifier := r.identifier
      sequence := r.sequence, checksumValid := true } := by
  have hframed : Framed e :=
    (hsame.sameEnvelope (by decide) (by decide)).framed (r.framed_datagram now)
  have hfront : ∀ offset ∈ systemOffsets, offset < headerLength (r.datagram now) := by
    rw [Request.datagram, r.plain_ipHeader.headerLength_append]
    decide
  have hmessage : messageOf e = r.message now :=
    (hsame.messageOf_eq (by decide) hfront).trans (r.messageOf_datagram now)
  rw [Reply.parse_of_framed hframed, hmessage, if_neg (r.fits_message now), fieldsOf_message now h]

end Request

/-- A request of any size that fits into a datagram is read as an echo request with its identifier
and its sequence number, and is intact: the checksum in it is the one that its reader computes. It
comes from nowhere as yet. What the system fills in changes nothing but the source, and whatever it
fills in, no probe takes the request for a reply, and nothing is logged. -/
theorem parse_own_request {r : Request} (h : r.payloadSize.toNat ≤ 65507) (now : Instant) :
    ∃ packet, r.encode now = .ok packet ∧
      Reply.parse packet = .ok {
        source := ⟨0, 0, 0, 0⟩, icmpType := 8, code := 0, identifier := r.identifier
        sequence := r.sequence, checksumValid := true } ∧
      Bytes.toWord (byteAt packet 22) (byteAt packet 23) =
        Checksum.internet (Bytes.store (messageOf packet) 2 0) ∧
      ∀ e, SameBut systemOffsets packet e →
        Reply.parse e = .ok {
          source := sourceOf e, icmpType := 8, code := 0, identifier := r.identifier
          sequence := r.sequence, checksumValid := true } ∧
        ∀ identifier, replySource identifier e = (none, []) := by
  refine ⟨r.datagram now, r.encode_of_le now h, ?_, ?_, fun e hsame => ⟨?_, fun identifier => ?_⟩⟩
  · exact Request.parse_of_sameBut now ⟨rfl, fun _ _ => rfl⟩ h
  · rw [r.messageOf_datagram, r.store_message, ← Request.onesComplement_blankMessage now h]
    exact Bytes.toWord_ofWord _
  · exact Request.parse_of_sameBut now hsame h
  · rw [replySource, Request.parse_of_sameBut now hsame h]
    rfl

/-- The longest request, sent before 1970. -/
theorem parse_own_request_longest :
    let r : Request := {
      destination := ⟨203, 0, 113, 9⟩, identifier := 0xbeef, sequence := 0xffff
      payloadSize := 65507, dontFragment := true }
    let now : Instant := ⟨-1, 999999999⟩
    r.payloadSize.toNat ≤ 65507 ∧ ∃ packet, r.encode now = .ok packet ∧
      Reply.parse packet = .ok {
        source := ⟨0, 0, 0, 0⟩, icmpType := 8, code := 0, identifier := 0xbeef
        sequence := 0xffff, checksumValid := true } ∧
      ∀ identifier, replySource identifier packet = (none, []) := by
  intro r now
  have h : r.payloadSize.toNat ≤ 65507 := by decide
  obtain ⟨packet, hpacket, hparse, -, hfilled⟩ := parse_own_request h now
  exact ⟨h, packet, hpacket, hparse, (hfilled packet ⟨rfl, fun _ _ => rfl⟩).2⟩

end PingTun.Echo
