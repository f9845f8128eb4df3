-- SUMMARY: Answers that do not fit into the receive buffer, and which of them a probe takes for corrupt.
import PingTun.Proofs.Checksum.Sums
import PingTun.Proofs.Echo.Answer
import PingTun.Proofs.Probe.Listening

/-! # Curtailed answers

A host's answer to a request adds up. The receive buffer has room for a payload of 2020 bytes, and
the checksum is looked at over what was received. Of a longer answer the end is missing, which
counts up byte by byte like the whole payload does. So whether the rest still adds up depends on the
length alone, and for three lengths it does.
-/

namespace PingTun

namespace Echo

/-! ## Answers as they are sent -/

/-- Whatever a reply echoes, it adds up. -/
theorem onesComplement_replyMessage (message : List UInt8) :
    Checksum.onesComplement (replyMessage message) = 0 := by
  let echoed := message.drop 4
  have hblank : Checksum.wordSum ([replyType, 0, 0, 0] ++ echoed) = Checksum.wordSum echoed := by
    simp [replyType]
  have hsum : Checksum.wordSum (replyMessage message) =
      Checksum.wordSum echoed + (65535 - Checksum.residue (Checksum.wordSum echoed)) := by
    let checksum := Checksum.onesComplement ([replyType, 0, 0, 0] ++ echoed)
    calc
      Checksum.wordSum (replyMessage message)
        = Checksum.wordSum (Bytes.ofWord checksum ++ echoed) := Nat.zero_add _
      _ = Checksum.wordSum echoed + (65535 - Checksum.residue (Checksum.wordSum echoed)) := by
        rw [Checksum.wordSum_ofWord, Checksum.toNat_onesComplement, hblank, Nat.add_comm]
  apply UInt16.toNat.inj
  rw [Checksum.toNat_onesComplement, hsum, Checksum.residue_add_complement]
  rfl

/-! ## The end of a payload -/

/-- Bytes that give their own position. -/
def countUp (start count : Nat) : List UInt8 := (List.range' start count).map Nat.toUInt8

theorem countUp_add (start count more : Nat) :
    countUp start (count + more) = countUp start count ++ countUp (start + count) more := by
  rw [countUp, ← List.range'_append_1, List.map_append]
  rfl

/-- The bytes start over every 256 positions. -/
theorem countUp_add_start (turns start count : Nat) :
    countUp (256 * turns + start) count = countUp start count := by
  have hbyte (i : Nat) : (256 * turns + i).toUInt8 = i.toUInt8 := by
    apply UInt8.toNat.inj
    simp only [Nat.toUInt8, UInt8.toNat_ofNat']
    omega
  unfold countUp
  rw [← List.map_add_range', List.map_map]
  exact List.map_congr_left fun i _ => hbyte i

@[simp] theorem length_countUp (start count : Nat) : (countUp start count).length = count := by
  simp [countUp]

/-- The sum of the first words of a turn. -/
def turnSum : Nat → Nat
  | 0 => 0
  | words + 1 => turnSum words + (257 * ((228 + 2 * words) % 256) + 1)

theorem wordSum_countUp_even (words : Nat) :
    Checksum.wordSum (countUp 228 (2 * words)) = turnSum words := by
  induction words with
  | zero => rfl
  | succ words ih =>
    have hword : Checksum.wordSum (countUp (228 + 2 * words) 2) =
        257 * ((228 + 2 * words) % 256) + 1 := by
      change ((228 + 2 * words) % 256) * 256 + (228 + 2 * words + 1) % 256 + 0 = _
      omega
    rw [Nat.mul_succ, countUp_add, Checksum.wordSum_append (by simp), ih, hword]
    rfl

theorem wordSum_countUp_odd (words : Nat) :
    Checksum.wordSum (countUp 228 (2 * words + 1)) =
      turnSum words + (228 + 2 * words) % 256 * 256 := by
  have hbyte : Checksum.wordSum (countUp (228 + 2 * words) 1) = (228 + 2 * words) % 256 * 256 :=
    Nat.add_zero _
  rw [countUp_add, Checksum.wordSum_append (by simp), wordSum_countUp_even, hbyte]

theorem wordSum_countUp (turns count : Nat) :
    Checksum.wordSum (countUp 228 (256 * turns + count)) =
      255 * (16384 * turns) + Checksum.wordSum (countUp 228 count) := by
  induction turns with
  | zero => simp
  | succ turns ih =>
    have hturn : Checksum.wordSum (countUp 228 256) = 4177920 := wordSum_countUp_even 128
    rw [show 256 * (turns + 1) + count = 256 + (256 * turns + count) by omega, countUp_add,
      Checksum.wordSum_append (by rw [length_countUp]), hturn, Nat.add_comm 228,
      countUp_add_start 1, ih]
    omega

/-- The parts of a turn that add up to a multiple of 255: how long they are, and which multiple. -/
def evenParts : List (Nat × Nat) := [(0, 0), (56, 3584), (86, 4219), (226, 13179)]

/-- The lengths, up to the greatest that is missing of an answer, that add up. -/
def evenLengths : List Nat := [14392, 22102, 58082]

/-- Whether a part of a turn with its sum is among those that add up to a multiple of 255. Only what
ends in such a part can add up. -/
def Parted (count sum : Nat) : Prop :=
  (sum % 255 ≠ 0 ∧ count ∉ evenLengths.map (· % 256)) ∨
    ∃ part ∈ evenParts, count = part.1 ∧ sum = 255 * part.2

instance (count sum : Nat) : Decidable (Parted count sum) := inferInstanceAs (Decidable (_ ∨ _))

theorem parted_countUp {count : Nat} (h : count < 256) :
    Parted count (Checksum.wordSum (countUp 228 count)) := by
  have hall : ∀ words < 128, Parted (2 * words) (turnSum words) ∧
      Parted (2 * words + 1) (turnSum words + (228 + 2 * words) % 256 * 256) := by decide +kernel
  obtain ⟨words, rfl | rfl⟩ := Nat.even_or_odd' count
  · rw [wordSum_countUp_even]
    exact (hall words (by omega)).1
  · rw [wordSum_countUp_odd]
    exact (hall words (by omega)).2

theorem mem_evenLengths {turns : Nat} {part : Nat × Nat} (hpart : part ∈ evenParts)
    (hturns : turns < 248) (hpos : 0 < 256 * turns + part.1) :
    (16384 * turns + part.2) % 257 = 0 ↔ 256 * turns + part.1 ∈ evenLengths := by
  have hall : ∀ part ∈ evenParts, ∀ turns < 248, 0 < 256 * turns + part.1 →
      ((16384 * turns + part.2) % 257 = 0 ↔ 256 * turns + part.1 ∈ evenLengths) := by
    decide +kernel
  exact hall part hpart turns hturns hpos

/-- The sum of a turn is a multiple of 255, and 65535 is 255 times 257. -/
theorem wordSum_countUp_mod {count : Nat} (hpos : 0 < count) (hle : count ≤ 63487) :
    Checksum.wordSum (countUp 228 count) % 65535 = 0 ↔ count ∈ evenLengths := by
  obtain ⟨turns, part, rfl, hlt⟩ : ∃ turns part, count = 256 * turns + part ∧ part < 256 :=
    ⟨count / 256, count % 256, (Nat.div_add_mod count 256).symm, Nat.mod_lt _ (by decide)⟩
  rw [wordSum_countUp]
  rcases parted_countUp hlt with ⟨hodd, hlength⟩ | ⟨part, hpart, rfl, hsum⟩
  · constructor
    · intro hsum
      have hmod := Nat.mod_mod_of_dvd (255 * (16384 * turns) + Checksum.wordSum (countUp 228 part))
        (by decide : 255 ∣ 65535)
      rw [hsum, Nat.mul_add_mod] at hmod
      exact absurd hmod.symm hodd
    · intro hmem
      have hmem := List.mem_map_of_mem (f := (· % 256)) hmem
      rw [Nat.mul_add_mod, Nat.mod_eq_of_lt hlt] at hmem
      exact absurd hmem hlength
  · rw [hsum, ← Nat.mul_add, Nat.mul_mod_mul_left 255 _ 257, ← mem_evenLengths hpart (by omega) hpos]
    omega

/-! ## Answers as they are received -/

namespace Request

/-- The answer to a request is taken for corrupt: its end is missing, and what is left does not add
up by chance. -/
def Garbled (r : Request) : Prop :=
  2020 < r.payloadSize.toNat ∧ r.payloadSize.toNat ∉ [16412, 24122, 60102]

instance (r : Request) : Decidable r.Garbled := inferInstanceAs (Decidable (_ ∧ _))

theorem payload_of_lt {r : Request} (h : 2020 < r.payloadSize.toNat) (now : Instant) :
    r.payload now =
      now.timestamp ++ countUp 16 2004 ++ countUp 228 (r.payloadSize.toNat - 2020) := by
  have hstamp : now.timestamp.take r.payloadSize.toNat = now.timestamp :=
    List.take_of_length_le (by rw [Instant.length_timestamp]; omega)
  have hcount : r.payloadSize.toNat - 16 = 2004 + (r.payloadSize.toNat - 2020) := by omega
  have hend := countUp_add_start 7 228 (r.payloadSize.toNat - 2020)
  rw [List.append_assoc, ← hend, ← countUp_add 16 2004, ← hcount, payload, hstamp]
  rfl

theorem length_replyMessage (r : Request) (now : Instant) :
    (replyMessage (r.message now)).length = r.payloadSize.toNat + 8 :=
  congrArg (· + 8) (r.length_payload now)

/-- An answer that is cut off behind 2028 bytes of its message does not add up if the request is one
of those, and only then. -/
theorem internet_take_replyMessage {r : Request} (h : r.payloadSize.toNat ≤ maxPayload)
    (now : Instant) :
    Checksum.internet ((replyMessage (r.message now)).take 2028) = 0 ↔ ¬ r.Garbled := by
  have hwhole := onesComplement_replyMessage (r.message now)
  obtain ⟨checksum, hreply⟩ : ∃ checksum, replyMessage (r.message now) =
    replyHeader checksum r.identifier r.sequence ++ r.payload now := ⟨_, rfl⟩
  rw [Checksum.internet_eq_onesComplement (by simp only [List.length_take]; omega)]
  rcases Nat.lt_or_ge 2020 r.payloadSize.toNat with hlarge | hsmall
  · let front := replyHeader checksum r.identifier r.sequence ++ now.timestamp ++ countUp 16 2004
    have hsplit : replyMessage (r.message now) =
        front ++ countUp 228 (r.payloadSize.toNat - 2020) := by
      rw [hreply, payload_of_lt hlarge]
      simp only [front, List.append_assoc]
    have hlength : front.length = 2028 := by simp [front, replyHeader]
    have hsome : Checksum.wordSum front ≠ 0 := by
      have hcount : countUp 16 2004 = 16 :: 17 :: countUp 18 2002 := rfl
      rw [Checksum.wordSum_append (by simp [replyHeader]), hcount, Checksum.wordSum_cons_cons]
      exact Nat.ne_of_gt (Nat.lt_add_left _ (Nat.lt_add_right _ (by decide)))
    rw [hsplit] at hwhole
    rw [hsplit, List.take_left' hlength,
      Checksum.onesComplement_eq_zero_of_append (by rw [hlength]) hsome hwhole,
      wordSum_countUp_mod (Nat.sub_pos_of_lt hlarge) (Nat.sub_le_sub_right h 2020)]
    simp only [evenLengths, Garbled, List.mem_cons, List.not_mem_nil, or_false]
    omega
  · have hlength : (replyMessage (r.message now)).length ≤ 2028 := by
      rw [length_replyMessage]
      exact Nat.add_le_add_right hsmall 8
    rw [List.take_of_length_le hlength]
    exact iff_of_true hwhole fun hgarbled => absurd hgarbled.1 (Nat.not_lt.mpr hsmall)

/-- What a probe makes of the answer to its request. -/
theorem replySource_encode {r : Request} {now : Instant} {packet : List UInt8}
    (h : r.encode now = .ok packet) (e : Envelope) :
    Checksum.internet ((answer e packet).drop ipHeaderLength) = 0 ∧
      replySource r.identifier ((answer e packet).take 2048) =
        (some r.destination, if r.Garbled then [.corruptReceived r.destination] else []) := by
  unfold encode at h
  split at h
  · cases h
  · rename_i hfits
    cases h
    have hsize := Nat.le_of_not_lt hfits
    constructor
    · have hlength := r.length_replyMessage now
      have hmax : r.payloadSize.toNat ≤ 65507 := hsize
      change Checksum.internet (replyMessage (r.message now)) = 0
      rw [Checksum.internet_eq_onesComplement (by omega), onesComplement_replyMessage]
    · rw [replySource_answer_eq]
      simp only [internet_take_replyMessage hsize, ite_not]

end Request

end Echo

/-! ## Reading up to an answer -/

/-- What is logged of an arrival that is read. -/
def Arrival.events (identifier : UInt16) : Arrival → List Event
  | .datagram bytes => (Echo.replySource identifier (bytes.take 2048)).2
  | .failure cause => Inbox.failureEvents cause

/-- A datagram that is no reply to the identifier. -/
inductive Arrival.Dropped (identifier : UInt16) : Arrival → Prop
  | datagram {bytes : List UInt8} :
    (Arrival.datagram bytes).reply? identifier = none → Dropped identifier (.datagram bytes)

/-- A read goes past what is dropped, and logs it. -/
theorem Inbox.drain_of_dropped {identifier : UInt16} {front : List Arrival}
    (hdropped : ∀ arrival ∈ front, arrival.Dropped identifier) (steps : Nat) (rest : List Arrival)
    (buffer : ReceiveBuffer) :
    ∃ filled, drain identifier (front.length + steps) (front ++ rest) buffer =
      ((drain identifier steps rest filled).1, (drain identifier steps rest filled).2.1,
        (drain identifier steps rest filled).2.2.1,
        front.flatMap (·.events identifier) ++ (drain identifier steps rest filled).2.2.2) := by
  induction front generalizing buffer with
  | nil =>
    refine ⟨buffer, ?_⟩
    rw [List.length_nil, Nat.zero_add]
    rfl
  | cons arrival front ih =>
    obtain ⟨hfirst, hfront⟩ := List.forall_mem_cons.mp hdropped
    cases hfirst with
    | @datagram bytes hnone =>
      obtain ⟨filled, hfilled⟩ := ih hfront (buffer.fill bytes).1
      refine ⟨filled, ?_⟩
      have hsteps : (Arrival.datagram bytes :: front).length + steps = front.length + steps + 1 :=
        Nat.add_right_comm ..
      rw [hsteps, List.cons_append, drain_datagram, hfilled, List.flatMap_cons, List.append_assoc]
      change (Echo.replySource identifier (bytes.take 2048)).1 = none at hnone
      exact if_neg (by rw [hnone]; exact Bool.false_ne_true)

/-- A read within its steps comes to a reply, behind what is dropped. -/
theorem Inbox.poll_of_reply {identifier : UInt16} {i : Inbox} {front later : List Arrival}
    {bytes : List UInt8} {address : Address} {events : List Event} {steps : Nat}
    (hready : i.ready = true) (hwaiting : i.waiting = front ++ .datagram bytes :: later)
    (hdropped : ∀ arrival ∈ front, arrival.Dropped identifier)
    (hreply : Echo.replySource identifier (bytes.take 2048) = (some address, events))
    (hsteps : front.length < steps) :
    ∃ left filled, i.poll identifier steps = (some address, left, ⟨later, true, filled⟩,
      front.flatMap (·.events identifier) ++ events) := by
  obtain ⟨left, rfl⟩ : ∃ left, steps = front.length + (left + 1) :=
    ⟨steps - front.length - 1, by omega⟩
  obtain ⟨filled, hdrain⟩ :=
    drain_of_dropped hdropped (left + 1) (.datagram bytes :: later) i.buffer
  refine ⟨left, (filled.fill bytes).1, ?_⟩
  rw [poll, if_pos hready, hwaiting, hdrain, drain_datagram, hreply]
  rfl

namespace Probe

section

variable {s : Scene} {socket : Descriptor} {inbox : Inbox} {r : Echo.Request} {now : Echo.Instant}
  {packet : List UInt8} {e : Echo.Envelope} {front later arrivals : List Arrival}

/-- The poll that reads the answer to a request. -/
theorem Listens.poll_answer (h : Listens r.identifier socket inbox s.probe)
    (hpacket : r.encode now = .ok packet) (hready : inbox.ready = true)
    (hwaiting : inbox.waiting = front ++ .datagram (Echo.answer e packet) :: later)
    (hdropped : ∀ arrival ∈ front, arrival.Dropped r.identifier)
    (hroom : front.length < EventLoop.stepsPerTurn) :
    ∃ filled, s.moment .poll = ⟨s, .poll, .yielded r.destination,
      front.flatMap (·.events r.identifier) ++
        (if r.Garbled then [.corruptReceived r.destination] else []),
      { s with probe := { s.probe with backend := .socket socket ⟨later, true, filled⟩ } }⟩ := by
  obtain ⟨-, hreply⟩ := Echo.Request.replySource_encode hpacket e
  obtain ⟨left, filled, hpoll⟩ := Inbox.poll_of_reply hready hwaiting hdropped hreply hroom
  refine ⟨filled, ?_⟩
  have hmoment := Scene.moment_poll (h.pollWithin_eq s.time EventLoop.stepsPerTurn)
  rw [hpoll] at hmoment
  exact hmoment

/-- The answer to a request that fits into a datagram adds up when it arrives. The poll that comes to
it, behind datagrams that are dropped, yields where it comes from, and leaves what is behind it. It
is taken for corrupt if its end does not fit into the receive buffer, unless what is left of it
happens to add up. -/
theorem yield_answer (hp : s.probe.backend = .socket socket inbox)
    (hidentifier : r.identifier = s.probe.identifier) (hpacket : r.encode now = .ok packet)
    (harrived : inbox.ready = true ∨ arrivals ≠ [])
    (hwaiting : inbox.waiting ++ arrivals = front ++ .datagram (Echo.answer e packet) :: later)
    (hdropped : ∀ arrival ∈ front, arrival.Dropped r.identifier) (hroom : front.length < 128) :
    let m := (s.moment (.arrive arrivals)).after.moment .poll
    Checksum.internet ((Echo.answer e packet).drop 20) = 0 ∧
      m.outcome = .yielded r.destination ∧
      m.events = front.flatMap (·.events r.identifier) ++
        (if r.Garbled then [.corruptReceived r.destination] else []) ∧
      m.after.probe.waiting = later := by
  intro m
  have hlistens : Listens r.identifier socket inbox s.probe := ⟨hidentifier.symm, hp⟩
  have hready : (inbox.arrive arrivals).ready = true := by
    simpa [Inbox.arrive] using harrived
  obtain ⟨filled, hpoll⟩ := (hlistens.arrive arrivals).poll_answer
    (s := (s.moment (.arrive arrivals)).after) hpacket hready hwaiting hdropped hroom
  have hm : m = _ := hpoll
  rw [hm]
  exact ⟨(Echo.Request.replySource_encode hpacket e).1, rfl, rfl, rfl⟩

end

/-- The answer to a request without a payload is behind a datagram that is dropped. -/
theorem yield_answer_empty :
    let s := Scene.opened 0 {} 0x1234 { script := ({} : Refusals).script 5 }
    let r := s.probe.request ⟨⟨203, 0, 113, 10⟩, 0, true⟩
    let e : Echo.Envelope := ⟨0, 28, 0, 0, 64, 0, ⟨10, 0, 0, 2⟩⟩
    let answer := Echo.answer e (r.ipHeader ++ r.message .epoch)
    let m := (s.moment (.arrive [.datagram [1], .datagram answer])).after.moment .poll
    m.outcome = .yielded ⟨203, 0, 113, 10⟩ ∧
      m.events = [.datagramDiscarded (.truncated 1)] := by
  intro s r e answer m
  have hp : s.probe.backend = .socket 0 {} := rfl
  have hpacket : r.encode .epoch = .ok (r.ipHeader ++ r.message .epoch) := rfl
  have hwaiting : [Arrival.datagram [1], .datagram answer] =
      [.datagram [1]] ++ .datagram answer :: [] := rfl
  have hdropped : ∀ arrival ∈ [Arrival.datagram [1]], arrival.Dropped 0x1234 := by
    intro arrival harrival
    cases List.mem_singleton.mp harrival
    exact .datagram (by decide)
  obtain ⟨-, houtcome, hevents, -⟩ :=
    yield_answer hp rfl hpacket (.inr (List.cons_ne_nil _ _)) hwaiting hdropped (by decide)
  exact ⟨houtcome, hevents⟩

/-- With one byte of payload more than there is room for, the request is sent, and its answer adds
up. It is taken for corrupt. -/
theorem answer_taken_for_corrupt :
    let s := Scene.opened 0 {} 0x1234 { script := ({} : Refusals).script 5 }
    let ping : Ping := ⟨⟨203, 0, 113, 10⟩, 2021, true⟩
    let sent := s.moment (.send .epoch ping)
    let e : Echo.Envelope := ⟨0, 2049, 0, 0, 64, 0, ⟨10, 0, 0, 2⟩⟩
    let answer := Echo.answer e (s.probe.packet .epoch ping)
    let m := (sent.after.moment (.arrive [.datagram answer])).after.moment .poll
    sent.outcome = .sent true ∧ Checksum.internet (answer.drop 20) = 0 ∧
      m.outcome = .yielded ⟨203, 0, 113, 10⟩ ∧
      m.events = [.corruptReceived ⟨203, 0, 113, 10⟩] := by
  intro s ping sent e answer m
  have hlistens : Listens 0x1234 0 {} sent.after.probe := ⟨rfl, rfl⟩
  have hpacket : (s.probe.request ping).encode .epoch = .ok (s.probe.packet .epoch ping) :=
    encode_request_of_le (by decide)
  obtain ⟨hintact, -⟩ := Echo.Request.replySource_encode hpacket e
  obtain ⟨filled, hpoll⟩ := (hlistens.arrive [.datagram answer]).poll_answer
    (r := s.probe.request ping) (s := (sent.after.moment (.arrive [.datagram answer])).after)
    hpacket rfl rfl (List.forall_mem_nil _) (by decide)
  have hm : m = _ := hpoll
  have hgarbled : (s.probe.request ping).Garbled := by decide
  rw [hm, if_pos hgarbled]
  exact ⟨by decide +kernel, hintact, rfl, rfl⟩

end Probe

end PingTun
