-- SUMMARY: Requests byte by byte, and that nothing is lost in laying them out.
import PingTun.Proofs.Echo.Loopback

/-! # The layout of requests

A request is laid out in one buffer by writes that overlap: bytes that count up fill the payload,
the time of sending is written over their beginning as far as there is room for it, and the message
header comes last, since its checksum is over the payload. Here each byte of the result is told by
its offset, for every payload that fits into a datagram and for every time.
-/

namespace PingTun

namespace Bytes

/-! ## Least significant byte first -/

/-- The number that bytes spell, the least significant first. -/
def ofLittleEndian : List UInt8 → Nat
  | [] => 0
  | b :: rest => b.toNat + 256 * ofLittleEndian rest

theorem ofLittleEndian_digits (n count : Nat) :
    ofLittleEndian ((List.range count).map fun i => (n >>> (8 * i)).toUInt8) = n % 256 ^ count := by
  induction count generalizing n with
  | zero => exact (Nat.mod_one n).symm
  | succ count ih =>
    have hshift : ((fun i => (n >>> (8 * i)).toUInt8) ∘ Nat.succ) =
        fun i => ((n / 256) >>> (8 * i)).toUInt8 := by
      funext i
      have hsplit : n >>> (8 * (i + 1)) = (n / 256) >>> (8 * i) := by
        rw [Nat.mul_succ, Nat.add_comm, Nat.shiftRight_add, Nat.shiftRight_eq_div_pow n]
      exact congrArg Nat.toUInt8 hsplit
    rw [List.range_succ_eq_map, List.map_cons, List.map_map, hshift, ofLittleEndian, ih,
      Nat.pow_succ', Nat.mod_mul]
    rfl

theorem ofLittleEndian_littleEndian (n : UInt64) : ofLittleEndian (littleEndian n) = n.toNat := by
  rw [littleEndian, ofLittleEndian_digits]
  exact Nat.mod_eq_of_lt n.toNat_lt

/-- A number that does not fit into 64 bits has the same lower bytes as what is left of it. -/
theorem getElem?_littleEndian (n : Nat) {i : Nat} (hi : i < 8) :
    (littleEndian n.toUInt64)[i]? = some (n / 256 ^ i).toUInt8 := by
  have hdigit : (n % 2 ^ 64) >>> (8 * i) % 256 = n / 256 ^ i % 256 := by
    have hsplit : 2 ^ 64 = 256 ^ i * 256 ^ (8 - i) := by
      rw [← Nat.pow_add, Nat.add_sub_of_le (Nat.le_of_lt hi)]
      rfl
    rw [Nat.shiftRight_eq_div_pow, Nat.pow_mul, hsplit, Nat.mod_mul_right_div_self,
      Nat.mod_mod_of_dvd _ (Dvd.intro_left _ (Nat.pow_pred_mul (by omega)))]
  rw [littleEndian, List.getElem?_map, List.getElem?_range hi]
  exact congrArg some (UInt8.toNat.inj hdigit)

/-! ## Checked sizes and writes -/

/-- The sum of two sizes, if it is a size. -/
def plus? (a b : UInt64) : Option UInt64 :=
  if a.toNat + b.toNat < 2 ^ 64 then some (a + b) else none

/-- A size as a 16-bit word, if that is all of it. -/
def word? (a : UInt64) : Option UInt16 :=
  if a.toNat < 2 ^ 16 then some a.toUInt16 else none

/-- Write over a part of a buffer, if all of the part lies inside it. -/
def overwrite? (buffer : List UInt8) (offset : Nat) (bytes : List UInt8) : Option (List UInt8) :=
  if offset + bytes.length ≤ buffer.length then
    some (buffer.take offset ++ bytes ++ buffer.drop (offset + bytes.length))
  else none

/-- What is written behind a front leaves the front, and what it is too short for. -/
theorem overwrite?_append (front rest : List UInt8) {bytes : List UInt8}
    (h : bytes.length ≤ rest.length) :
    overwrite? (front ++ rest) front.length bytes =
      some (front ++ (bytes ++ rest.drop bytes.length)) := by
  have hroom : front.length + bytes.length ≤ (front ++ rest).length := by
    rw [List.length_append]
    exact Nat.add_le_add_left h _
  rw [overwrite?, if_pos hroom, List.take_left, List.drop_length_add_append, List.append_assoc]

end Bytes

namespace Echo

/-! ## Times -/

namespace Instant

/-- Seconds since the epoch and microseconds of the last of them, both zero before it. -/
def sinceEpoch (now : Instant) : Nat × Nat :=
  if now.seconds < 0 then (0, 0) else (now.seconds.toNat, now.nanoseconds / 1000)

/-- The byte at a place of the timestamp: eight bytes of seconds and eight of microseconds, the
least significant first. -/
def stampByte (now : Instant) (i : Nat) : UInt8 :=
  if i < 8 then (now.sinceEpoch.1 / 256 ^ i).toUInt8
  else (now.sinceEpoch.2 / 256 ^ (i - 8)).toUInt8

theorem timestamp_eq (now : Instant) :
    now.timestamp = Bytes.littleEndian now.sinceEpoch.1.toUInt64 ++
      Bytes.littleEndian now.sinceEpoch.2.toUInt64 := by
  unfold timestamp sinceEpoch
  split
  · rfl
  · rfl

theorem getElem?_timestamp (now : Instant) {i : Nat} (hi : i < 16) :
    now.timestamp[i]? = some (now.stampByte i) := by
  rw [timestamp_eq, stampByte]
  split
  · rename_i hseconds
    rw [List.getElem?_append_left (by simpa using hseconds), Bytes.getElem?_littleEndian _ hseconds]
  · rename_i hmicroseconds
    have hle : 8 ≤ i := Nat.le_of_not_lt hmicroseconds
    rw [List.getElem?_append_right (by simpa using hle), Bytes.length_littleEndian,
      Bytes.getElem?_littleEndian _ (by omega)]

end Instant

/-- The time that a datagram says it was sent at, as seconds and microseconds. -/
def statedTime (packet : List UInt8) : Nat × Nat :=
  (Bytes.ofLittleEndian ((packet.drop 28).take 8), Bytes.ofLittleEndian ((packet.drop 36).take 8))

namespace Request

/-! ## Byte by byte -/

/-- How the datagram of a request is laid out. Only the checksum is left open. -/
structure LaidOut (r : Request) (now : Instant) (packet : List UInt8) : Prop where
  length : packet.length = 28 + r.payloadSize.toNat
  version : byteAt packet 0 = 0x45
  totalLength : (Bytes.toWord (byteAt packet 2) (byteAt packet 3)).toNat = packet.length
  identification : Bytes.toWord (byteAt packet 4) (byteAt packet 5) = r.identifier
  fragments : Bytes.toWord (byteAt packet 6) (byteAt packet 7) =
    if r.dontFragment then 0x4000 else 0
  timeToLive : byteAt packet 8 = 255
  protocol : byteAt packet 9 = 1
  destination : (packet.drop 16).take 4 = r.destination.octets
  blank : ∀ offset ∈ [1, 10, 11, 12, 13, 14, 15], byteAt packet offset = 0
  icmpType : byteAt packet 20 = 8
  code : byteAt packet 21 = 0
  identifier : Bytes.toWord (byteAt packet 24) (byteAt packet 25) = r.identifier
  sequence : Bytes.toWord (byteAt packet 26) (byteAt packet 27) = r.sequence
  stamped : ∀ i < min 16 r.payloadSize.toNat, packet[28 + i]? = some (now.stampByte i)
  counted : ∀ i, 16 ≤ i → i < r.payloadSize.toNat → packet[28 + i]? = some i.toUInt8

variable (r : Request) (now : Instant)

/-- Everything in front of the payload. -/
def headers : List UInt8 :=
  r.ipHeader ++ r.messageHeader (Checksum.onesComplement (r.blankMessage now))

theorem datagram_eq : r.datagram now = r.headers now ++ r.payload now := by
  rw [headers, List.append_assoc]
  rfl

theorem length_headers : (r.headers now).length = 28 := rfl

theorem getElem?_datagram (i : Nat) : (r.datagram now)[28 + i]? = (r.payload now)[i]? := by
  rw [datagram_eq, ← r.length_headers now, List.getElem?_append_right (Nat.le_add_right ..),
    Nat.add_sub_cancel_left]

variable {r}

theorem toNat_packetLength (h : r.payloadSize.toNat ≤ 65507) :
    r.packetLength.toNat = 28 + r.payloadSize.toNat := by
  rw [packetLength, UInt64.toNat_add]
  exact Nat.mod_eq_of_lt (by change 28 + _ < _; omega)

theorem toNat_totalLength (h : r.payloadSize.toNat ≤ 65507) :
    r.packetLength.toUInt16.toNat = 28 + r.payloadSize.toNat := by
  rw [UInt64.toNat_toUInt16, toNat_packetLength h]
  exact Nat.mod_eq_of_lt (by omega)

theorem length_datagram (r : Request) (now : Instant) :
    (r.datagram now).length = 28 + r.payloadSize.toNat := by
  rw [datagram_eq, List.length_append, length_headers, length_payload]

theorem getElem?_payload_of_lt {i : Nat} (hi : i < min 16 r.payloadSize.toNat) :
    (r.payload now)[i]? = some (now.stampByte i) := by
  have hinside : i < (now.timestamp.take r.payloadSize.toNat).length := by
    rw [List.length_take, Instant.length_timestamp]
    omega
  rw [payload, List.getElem?_append_left hinside, List.getElem?_take_of_lt (by omega),
    Instant.getElem?_timestamp now (by omega)]

theorem getElem?_payload_of_le {i : Nat} (hle : 16 ≤ i) (hi : i < r.payloadSize.toNat) :
    (r.payload now)[i]? = some i.toUInt8 := by
  have hstamp : (now.timestamp.take r.payloadSize.toNat).length = 16 := by
    rw [List.length_take, Instant.length_timestamp]
    omega
  rw [payload, List.getElem?_append_right (by omega), hstamp, List.getElem?_map,
    List.getElem?_range' (by omega), Nat.one_mul, Nat.add_sub_of_le hle]
  rfl

theorem laidOut_datagram (h : r.payloadSize.toNat ≤ 65507) : LaidOut r now (r.datagram now) where
  length := r.length_datagram now
  version := rfl
  totalLength := by
    rw [length_datagram, ← toNat_totalLength h]
    exact congrArg UInt16.toNat (Bytes.toWord_ofWord _)
  identification := Bytes.toWord_ofWord r.identifier
  fragments := Bytes.toWord_ofWord r.fragmentWord
  timeToLive := rfl
  protocol := rfl
  destination := rfl
  blank := by
    intro offset hmem
    simp only [List.mem_cons, List.not_mem_nil, or_false] at hmem
    rcases hmem with rfl | rfl | rfl | rfl | rfl | rfl | rfl <;> rfl
  icmpType := rfl
  code := rfl
  identifier := Bytes.toWord_ofWord r.identifier
  sequence := Bytes.toWord_ofWord r.sequence
  stamped := fun i hi => by rw [getElem?_datagram, getElem?_payload_of_lt now hi]
  counted := fun i hle hi => by rw [getElem?_datagram, getElem?_payload_of_le now hle hi]

/-! ## Reading the time -/

/-- A payload with room for it tells the time, as far as it fits into 64 bits. -/
theorem statedTime_datagram (hstamp : 16 ≤ r.payloadSize.toNat)
    (hseconds : now.sinceEpoch.1 < 2 ^ 64) (hmicroseconds : now.sinceEpoch.2 < 2 ^ 64) :
    statedTime (r.datagram now) = now.sinceEpoch := by
  have hpayload : (r.datagram now).drop 28 = Bytes.littleEndian now.sinceEpoch.1.toUInt64 ++
      (Bytes.littleEndian now.sinceEpoch.2.toUInt64 ++
        (List.range' 16 (r.payloadSize.toNat - 16)).map Nat.toUInt8) := by
    rw [datagram_eq, List.drop_left' (r.length_headers now), payload,
      List.take_of_length_le (by rwa [Instant.length_timestamp]), Instant.timestamp_eq,
      List.append_assoc]
  have hlater : (r.datagram now).drop 36 = ((r.datagram now).drop 28).drop 8 := by
    rw [List.drop_drop]
  rw [statedTime, hlater, hpayload, List.take_left' (Bytes.length_littleEndian _),
    List.drop_left' (Bytes.length_littleEndian _), List.take_left' (Bytes.length_littleEndian _),
    Bytes.ofLittleEndian_littleEndian, Bytes.ofLittleEndian_littleEndian]
  exact Prod.ext (UInt64.toNat_ofNat_of_lt' hseconds) (UInt64.toNat_ofNat_of_lt' hmicroseconds)

/-! ## Checked writes -/

theorem from?_append (front back : List UInt8) :
    Reply.from? (front ++ back) front.length = some back := by
  have hinside : front.length ≤ (front ++ back).length := by
    rw [List.length_append]
    exact Nat.le_add_right ..
  rw [Reply.from?, if_pos hinside, List.drop_left]

/-- Write the IPv4 header over the beginning of a buffer. -/
def writeIpHeader? (r : Request) (totalLength : UInt16) (buffer : List UInt8) :
    Option (List UInt8) := do
  let buffer ← Bytes.overwrite? buffer 0 [0x45]
  let buffer ← Bytes.overwrite? buffer 2 (Bytes.ofWord totalLength)
  let buffer ← Bytes.overwrite? buffer 4 (Bytes.ofWord r.identifier)
  let buffer ← Bytes.overwrite? buffer 6 (Bytes.ofWord (if r.dontFragment then 0x4000 else 0))
  let buffer ← Bytes.overwrite? buffer 8 [255]
  let buffer ← Bytes.overwrite? buffer 9 [1]
  Bytes.overwrite? buffer 16 r.destination.octets

/-- Write the payload behind the headers: bytes that count up, and the time over their beginning. -/
def writePayload? (now : Instant) (buffer : List UInt8) : Option (List UInt8) := do
  let size := (← Reply.from? buffer 28).length
  let buffer ← Bytes.overwrite? buffer 28 ((List.range size).map Nat.toUInt8)
  Bytes.overwrite? buffer 28 (now.timestamp.take (min 16 size))

/-- Write the message header in front of the payload, with the checksum of what is there. -/
def writeMessageHeader? (r : Request) (buffer : List UInt8) : Option (List UInt8) := do
  let payload ← Reply.from? buffer 28
  Bytes.overwrite? buffer 20
    (r.messageHeader (Checksum.onesComplement (r.messageHeader 0 ++ payload)))

/-- Lay out the datagram of a request in one buffer, with every sum, every cast and every write
checked. There is no result at all if anything is lost. -/
def encodeChecked (r : Request) (now : Instant) : Option (Except SendError (List UInt8)) := do
  if 65507 < r.payloadSize.toNat then return .error (.payloadTooLarge r.payloadSize.toNat)
  let length ← Bytes.plus? 28 r.payloadSize
  let totalLength ← Bytes.word? length
  let buffer ← r.writeIpHeader? totalLength (List.replicate length.toNat 0)
  let buffer ← writePayload? now buffer
  return .ok (← r.writeMessageHeader? buffer)

/-- Each field of the header has a place of its own. -/
theorem writeIpHeader?_eq (r : Request) (rest : List UInt8) :
    r.writeIpHeader? r.packetLength.toUInt16 (List.replicate 20 0 ++ rest) =
      some (r.ipHeader ++ rest) := by
  simp [writeIpHeader?, Bytes.overwrite?, List.replicate, Bytes.ofWord, Address.octets, ipHeader,
    fragmentWord, dontFragmentFlag, timeToLive, icmpProtocol]

/-- The time of sending takes the place of the bytes that it has room for. -/
theorem payload_eq (r : Request) (now : Instant) :
    r.payload now = now.timestamp.take (min 16 r.payloadSize.toNat) ++
      ((List.range r.payloadSize.toNat).map Nat.toUInt8).drop (min 16 r.payloadSize.toNat) := by
  have hstamp : now.timestamp.take r.payloadSize.toNat =
      now.timestamp.take (min 16 r.payloadSize.toNat) := by
    rw [List.take_eq_take_iff, Instant.length_timestamp]
    omega
  have hcount : (List.range r.payloadSize.toNat).drop (min 16 r.payloadSize.toNat) =
      List.range' 16 (r.payloadSize.toNat - 16) := by
    rw [List.range_eq_range', List.drop_range', Nat.zero_add, Nat.mul_one]
    rcases Nat.le_total 16 r.payloadSize.toNat with hle | hle
    · rw [Nat.min_eq_left hle]
    · rw [Nat.min_eq_right hle, Nat.sub_self, Nat.sub_eq_zero_of_le hle]
      rfl
  rw [payload, hstamp, ← List.map_drop, hcount]

theorem writePayload?_eq (r : Request) (now : Instant) {front rest : List UInt8}
    (hfront : front.length = 28) (hrest : rest.length = r.payloadSize.toNat) :
    writePayload? now (front ++ rest) = some (front ++ r.payload now) := by
  let counted := (List.range rest.length).map Nat.toUInt8
  let stamp := now.timestamp.take (min 16 rest.length)
  have hcounted : counted.length = rest.length := by rw [List.length_map, List.length_range]
  have hstamp : stamp.length = min 16 rest.length := by
    rw [List.length_take, Instant.length_timestamp]
    omega
  have hfrom : Reply.from? (front ++ rest) 28 = some rest := by
    rw [← hfront, from?_append]
  have hcount : Bytes.overwrite? (front ++ rest) 28 counted = some (front ++ counted) := by
    rw [← hfront, Bytes.overwrite?_append front rest (Nat.le_of_eq hcounted), hcounted,
      List.drop_length, List.append_nil]
  have htime : Bytes.overwrite? (front ++ counted) 28 stamp = some (front ++ r.payload now) := by
    rw [← hfront, Bytes.overwrite?_append front counted (by omega), hstamp, payload_eq, ← hrest]
  rw [writePayload?, hfrom, Option.bind_eq_bind, Option.bind_some]
  dsimp only
  rw [hcount]
  exact htime

theorem writeMessageHeader?_eq (r : Request) {header blank : List UInt8}
    (hheader : header.length = 20) (hblank : blank.length = 8) (payload : List UInt8) :
    r.writeMessageHeader? (header ++ (blank ++ payload)) =
      some (header ++ (r.messageHeader (Checksum.onesComplement (r.messageHeader 0 ++ payload)) ++
        payload)) := by
  have hfrom : Reply.from? (header ++ (blank ++ payload)) 28 = some payload := by
    have hfront : (header ++ blank).length = 28 := by rw [List.length_append, hheader, hblank]
    rw [← List.append_assoc, ← hfront, from?_append]
  have hrest : (blank ++ payload).drop messageHeaderLength = payload := List.drop_left' hblank
  have hwrite (checksum : UInt16) :
      Bytes.overwrite? (header ++ (blank ++ payload)) 20 (r.messageHeader checksum) =
        some (header ++ (r.messageHeader checksum ++ payload)) := by
    have hroom : (r.messageHeader checksum).length ≤ (blank ++ payload).length := by
      rw [length_messageHeader, List.length_append, hblank]
      exact Nat.le_add_right ..
    rw [← hheader, Bytes.overwrite?_append header _ hroom, length_messageHeader, hrest]
  rw [writeMessageHeader?, hfrom]
  exact hwrite _

/-- Nothing is lost in laying out a request that fits, and no other is laid out. -/
theorem encodeChecked_eq (r : Request) (now : Instant) :
    r.encodeChecked now = some (r.encode now) := by
  unfold encodeChecked
  by_cases hlarge : 65507 < r.payloadSize.toNat
  · rw [if_pos hlarge]
    exact congrArg some (if_pos hlarge).symm
  have h : r.payloadSize.toNat ≤ 65507 := Nat.le_of_not_lt hlarge
  have hplus : Bytes.plus? 28 r.payloadSize = some r.packetLength :=
    if_pos (by change 28 + _ < _; omega)
  have hword : Bytes.word? r.packetLength = some r.packetLength.toUInt16 :=
    if_pos (by rw [toNat_packetLength h]; omega)
  have hbuffer : List.replicate r.packetLength.toNat (0 : UInt8) =
      List.replicate 20 0 ++ (List.replicate 8 0 ++ List.replicate r.payloadSize.toNat 0) := by
    rw [toNat_packetLength h, List.replicate_append_replicate, List.replicate_append_replicate,
      ← Nat.add_assoc]
  have hpayload : writePayload? now
      (r.ipHeader ++ (List.replicate 8 0 ++ List.replicate r.payloadSize.toNat 0)) =
        some (r.ipHeader ++ (List.replicate 8 0 ++ r.payload now)) := by
    rw [← List.append_assoc, writePayload?_eq r now rfl List.length_replicate, List.append_assoc]
  have hblank : (List.replicate 8 (0 : UInt8)).length = 8 := List.length_replicate
  have hheader := r.writeMessageHeader?_eq r.length_ipHeader hblank (r.payload now)
  rw [if_neg hlarge, hplus, r.encode_of_le now h]
  simp only [Option.bind_eq_bind, Option.bind_some, hword, hbuffer, writeIpHeader?_eq, hpayload,
    hheader]
  rfl

/-! ## Requests on the wire -/

/-- A request is refused exactly if its payload does not fit into a datagram. Any other is laid out
byte by byte as it has to be, for every time and every payload that fits; no sum of sizes, no cast
and no write that goes into this loses anything. A payload with room for a timestamp tells when the
request was sent, to the microsecond. -/
theorem encode_laidOut (r : Request) (now : Instant) :
    r.encodeChecked now = some (r.encode now) ∧
    (∀ e, r.encode now = .error e ↔
      65507 < r.payloadSize.toNat ∧ e = .payloadTooLarge r.payloadSize.toNat) ∧
    (r.payloadSize.toNat ≤ 65507 → ∃ packet, r.encode now = .ok packet ∧ LaidOut r now packet ∧
      (16 ≤ r.payloadSize.toNat → now.seconds < 2 ^ 63 → now.nanoseconds < 10 ^ 9 →
        statedTime packet = now.sinceEpoch)) := by
  refine ⟨r.encodeChecked_eq now, fun e => ?_, fun h => ?_⟩
  · rcases Nat.lt_or_ge 65507 r.payloadSize.toNat with hlarge | hsmall
    · have hencode : r.encode now = .error (.payloadTooLarge r.payloadSize.toNat) := if_pos hlarge
      rw [hencode, Except.error.injEq, and_iff_right hlarge, eq_comm]
    · rw [r.encode_of_le now hsmall]
      exact iff_of_false nofun fun hlarge => Nat.not_lt.mpr hsmall hlarge.1
  · refine ⟨r.datagram now, r.encode_of_le now h, laidOut_datagram now h, ?_⟩
    intro hstamp hseconds hnanoseconds
    have hfits : now.sinceEpoch.1 < 2 ^ 64 ∧ now.sinceEpoch.2 < 2 ^ 64 := by
      unfold Instant.sinceEpoch
      split
      · decide
      · dsimp only
        omega
    exact statedTime_datagram now hstamp hfits.1 hfits.2

/-- The shortest request that tells when it was sent, down to the last microsecond. -/
theorem encode_laidOut_stamped :
    let r : Request := {
      destination := ⟨203, 0, 113, 9⟩, identifier := 0xbeef, sequence := 7
      payloadSize := 16, dontFragment := false }
    let now : Instant := ⟨1700000000, 123456789⟩
    r.payloadSize.toNat ≤ 65507 ∧ 16 ≤ r.payloadSize.toNat ∧ now.seconds < 2 ^ 63 ∧
      now.nanoseconds < 10 ^ 9 ∧ ∃ packet, r.encode now = .ok packet ∧ packet.length = 44 ∧
        statedTime packet = (1700000000, 123456) := by
  intro r now
  have hfits : r.payloadSize.toNat ≤ 65507 := by decide
  have hroom : 16 ≤ r.payloadSize.toNat := by decide
  have hseconds : now.seconds < 2 ^ 63 := by decide
  have hnanoseconds : now.nanoseconds < 10 ^ 9 := by decide
  obtain ⟨packet, hpacket, hlaidOut, htime⟩ := (encode_laidOut r now).2.2 hfits
  have hstated : statedTime packet = (1700000000, 123456) :=
    (htime hroom hseconds hnanoseconds).trans (by decide)
  exact ⟨hfits, hroom, hseconds, hnanoseconds, packet, hpacket, hlaidOut.length, hstated⟩

end Request

end Echo

end PingTun
