-- SUMMARY: Which sequence number every request of a probe's life carries, and that numbers repeat only after all others.
import Mathlib.Data.List.Nodup
import PingTun.Proofs.Probe.Lifetime

/-! # Sequence numbers

Requests are numbered from zero on, and start again after 65535. A number is used up by every ping
that fits into a datagram, before the system is asked anything, and by nothing else; so what comes
of a send makes no difference to the numbers of later ones.
-/

namespace PingTun.Probe

/-! ## Numbered steps -/

/-- Whether a step is the send of a ping that fits into a datagram. -/
def Step.isNumbered : Step → Bool
  | .send _ ping => ping.payloadSize.toNat ≤ 65507
  | _ => false

/-- The sequence number in front of a step, which its request carries. -/
def Moment.sequence (m : Moment) : UInt16 := m.before.probe.nextSequence

/-- The moments of a life at which a sequence number is used up. -/
def numbered (log : List Moment) : List Moment := log.filter (·.step.isNumbered)

theorem numbered_cons_of_true {m : Moment} (h : m.step.isNumbered = true) (log : List Moment) :
    numbered (m :: log) = m :: numbered log :=
  List.filter_cons_of_pos (p := fun m : Moment => m.step.isNumbered) h

theorem numbered_cons_of_false {m : Moment} (h : m.step.isNumbered = false) (log : List Moment) :
    numbered (m :: log) = numbered log :=
  List.filter_cons_of_neg (p := fun m : Moment => m.step.isNumbered) (by simp [h])

/-- What a step does to the numbers, and what it is that the step may hand to the system. -/
structure Numbering (m : Moment) : Prop where
  identifier : m.after.probe.identifier = m.before.probe.identifier
  state : m.after.probe.state = m.before.probe.state
  next : m.after.probe.nextSequence = m.sequence + if m.step.isNumbered then 1 else 0
  packet : ∀ now ping, m.step = .send now ping → ∀ call ∈ m.calls, call.isTransmission = true →
    ∃ socket packet sent, call = .sendTo socket ping.address 0 packet sent ∧
      (m.before.probe.request ping).encode now = .ok packet

/-- A step that is no send, and makes no calls. -/
theorem SameSender.numbering {m : Moment} (h : SameSender m.before.probe m.after.probe)
    (hstep : ∀ now ping, m.step ≠ .send now ping) : Numbering m where
  identifier := h.identifier
  state := h.state
  next := by
    have hnumbered : m.step.isNumbered = false := by
      cases hm : m.step with
      | send now ping => exact absurd hm (hstep now ping)
      | _ => rfl
    rw [hnumbered, h.nextSequence]
    exact (UInt16.add_zero _).symm
  packet now ping hsend := absurd hsend (hstep now ping)

theorem Transmits.packet {socket : Descriptor} {packet : List UInt8} {ping : Ping}
    {result : Except Echo.SendError Unit} {calls : List Call}
    (h : Transmits socket packet ping result calls) :
    ∀ call ∈ calls, call.isTransmission = true →
      ∃ sent, call = .sendTo socket ping.address 0 packet sent := by
  intro call hcall htransmission
  obtain ⟨sent, hsent, -, -⟩ := h.of_mem hcall htransmission
  exact ⟨sent, hsent⟩

theorem isNumbered_send (now : Echo.Instant) (ping : Ping) :
    (Step.send now ping).isNumbered = decide (ping.payloadSize.toNat ≤ Echo.maxPayload) := rfl

/-- A send uses up a number if its ping fits into a datagram, whatever comes of it. -/
theorem numbering_send {s : Scene} (hs : s.probe.state ≠ .socketFailed) (now : Echo.Instant)
    (ping : Ping) : Numbering (s.moment (.send now ping)) := by
  rcases Nat.lt_or_ge Echo.maxPayload ping.payloadSize.toNat with hlarge | hsmall
  · have hnumbered : (Step.send now ping).isNumbered = false := by
      rw [isNumbered_send]
      exact decide_eq_false (Nat.not_le_of_lt hlarge)
    rw [Scene.moment_send (sendAt_of_lt hs hlarge)]
    refine ⟨rfl, rfl, ?_, ?_⟩
    · rw [hnumbered]
      exact (UInt16.add_zero _).symm
    · rw [Moment.calls_quiet rfl]
      exact fun _ _ _ => List.forall_mem_nil _
  · have hnumbered : (Step.send now ping).isNumbered = true := by
      rw [isNumbered_send]
      exact decide_eq_true hsmall
    cases hbackend : s.probe.backend with
    | failed =>
      simp [state, hbackend] at hs
    | socket socket inbox =>
      obtain ⟨calls, hcalls, htransmits⟩ :=
        transmits socket (s.probe.packet now ping) ping s.host
      rw [Scene.moment_send (sendAt_socket hbackend hsmall)]
      refine ⟨rfl, rfl, ?_, ?_⟩
      · rw [hnumbered]
        rfl
      · intro now' ping' hstep call hcall htransmission
        cases hstep
        rw [Moment.calls_eq hcalls] at hcall
        obtain ⟨sent, hsent⟩ := htransmits.packet call hcall htransmission
        exact ⟨socket, _, sent, hsent, encode_request_of_le hsmall⟩
    | simulated simulation =>
      rw [Scene.moment_send (sendAt_simulated hbackend hsmall)]
      refine ⟨rfl, ?_, ?_, ?_⟩
      · simp only [state, hbackend]
      · rw [hnumbered]
        rfl
      · rw [Moment.calls_quiet rfl]
        exact fun _ _ _ => List.forall_mem_nil _

theorem numbering_moment {s : Scene} (hs : s.probe.state ≠ .socketFailed) (step : Step) :
    Numbering (s.moment step) := by
  by_cases hsend : ∃ now ping, step = .send now ping
  · obtain ⟨now, ping, rfl⟩ := hsend
    exact numbering_send hs now ping
  · have hother : ∀ now ping, step ≠ .send now ping :=
      fun now ping hstep => hsend ⟨now, ping, hstep⟩
    have hsame := s.sameSender_moment hother
    apply SameSender.numbering
    · rwa [Scene.before_moment]
    · rwa [Scene.step_moment]

theorem numbering_orphanMoment {s : Scene} (hs : s.probe.state ≠ .socketFailed) {step : Step}
    {m : Moment} (h : s.orphanMoment step = .ok m) : Numbering m := by
  rcases Scene.orphanMoment_cases h with rfl | ⟨hother, hlook⟩
  · exact numbering_moment hs step
  · obtain ⟨hbefore, hstep, -, hsame⟩ := Scene.orphanLook_spec hlook
    apply SameSender.numbering
    · rwa [hbefore]
    · rwa [hstep]

/-- The steps of a life keep to the numbering, before the event loop is gone and after. -/
theorem numbering_of_mem_lifetime {s : Scene} (hs : s.probe.state ≠ .socketFailed)
    (steps orphaned : List Step) : ∀ m ∈ s.lifetime steps orphaned, Numbering m := by
  refine Scene.law_of_mem_lifetime (fun t => t.probe.state ≠ .socketFailed) ?_ ?_ hs steps orphaned
  · intro t step ht
    have hm := numbering_moment ht step
    refine ⟨hm, ?_⟩
    rw [hm.state, Scene.before_moment]
    exact ht
  · intro t step m ht horphan
    have hm := numbering_orphanMoment ht horphan
    refine ⟨hm, ?_⟩
    rw [hm.state, Scene.before_orphanMoment horphan]
    exact ht

/-! ## Numbers one after the other -/

theorem add_toUInt16_succ (first : UInt16) (k : Nat) :
    first + (k + 1).toUInt16 = first + 1 + k.toUInt16 := by
  change first + UInt16.ofNat (k + 1) = first + 1 + UInt16.ofNat k
  rw [UInt16.ofNat_add, UInt16.add_comm (UInt16.ofNat k), ← UInt16.add_assoc]
  rfl

theorem map_range_succ (first : UInt16) (count : Nat) :
    (List.range (count + 1)).map (fun k => first + k.toUInt16) =
      first :: (List.range count).map fun k => first + 1 + k.toUInt16 := by
  rw [List.range_succ_eq_map, List.map_cons, List.map_map]
  congr 1
  · exact UInt16.add_zero first
  · exact List.map_congr_left fun k _ => add_toUInt16_succ first k

/-- The numbers that are used up follow one another, and lead to the next number. -/
theorem sequence_numbered {s : Scene} {log : List Moment} (h : Consecutive s log)
    (hlaw : ∀ m ∈ log, Numbering m) :
    (numbered log).map (·.sequence) =
        (List.range (numbered log).length).map (fun k => s.probe.nextSequence + k.toUInt16) ∧
      (s.behind log).probe.nextSequence =
        s.probe.nextSequence + (numbered log).length.toUInt16 := by
  -- Both are counted from the scene in front, so a numbered step moves the others up by one.
  induction h with
  | nil => exact ⟨rfl, (UInt16.add_zero _).symm⟩
  | @cons m log _ ih =>
    obtain ⟨hm, hlog⟩ := List.forall_mem_cons.mp hlaw
    obtain ⟨hsequence, hbehind⟩ := ih hlog
    rw [Scene.behind_cons, hbehind]
    cases hnumbered : m.step.isNumbered with
    | false =>
      have hnext : m.after.probe.nextSequence = m.before.probe.nextSequence := by
        rw [hm.next, hnumbered]
        exact UInt16.add_zero _
      rw [numbered_cons_of_false hnumbered, ← hnext]
      exact ⟨hsequence, rfl⟩
    | true =>
      have hnext : m.after.probe.nextSequence = m.before.probe.nextSequence + 1 := by
        rw [hm.next, hnumbered]
        rfl
      rw [numbered_cons_of_true hnumbered, List.length_cons, map_range_succ, List.map_cons, ← hnext]
      refine ⟨congrArg (m.sequence :: ·) hsequence, ?_⟩
      rw [hnext, add_toUInt16_succ]

theorem identifier_of_consecutive {s : Scene} {log : List Moment} (h : Consecutive s log)
    (hlaw : ∀ m ∈ log, Numbering m) :
    ∀ m ∈ log, m.before.probe.identifier = s.probe.identifier := by
  induction h with
  | nil => exact List.forall_mem_nil _
  | @cons m log _ ih =>
    obtain ⟨hm, hlog⟩ := List.forall_mem_cons.mp hlaw
    refine List.forall_mem_cons.mpr ⟨rfl, fun later hlater => ?_⟩
    rw [ih hlog later hlater, hm.identifier]

/-- Among so many numbers there are no two equal ones. -/
theorem nodup_window (count i : Nat) :
    ((((List.range count).map Nat.toUInt16).drop i).take 65536).Nodup := by
  have hwindow : ∀ k ∈ ((List.range count).drop i).take 65536, i ≤ k ∧ k < i + 65536 := by
    intro k hk
    obtain ⟨j, hj, rfl⟩ := List.mem_take_iff_getElem.mp hk
    rw [List.getElem_drop, List.getElem_range]
    omega
  rw [← List.map_drop, ← List.map_take]
  apply List.Nodup.map_on
  · intro j hj k hk hjk
    -- Two places of one window are less than 65536 apart.
    have hmod : j % 65536 = k % 65536 := congrArg UInt16.toNat hjk
    have := hwindow j hj
    have := hwindow k hk
    omega
  · exact List.nodup_range.sublist ((List.take_sublist ..).trans (List.drop_sublist ..))

/-! ## Requests of a life -/

/-- Whatever is done to a probe that has something to send with, before its event loop is gone and
after, and whatever the system answers: the next sequence number counts the sends of pings that fit
into a datagram; each of these carries its own number, from zero on, and hands over the very
request that the ping stands for, if anything; no two of so many in a row carry the same number; and
no other step uses up a number. -/
theorem sequence_of_lifetime (start : Nat) (c : ProbeConfig) (identifier : UInt16) (host : Host)
    (steps orphaned : List Step)
    (hopen : (Scene.opened start c identifier host).probe.state ≠ .socketFailed) :
    let s := Scene.opened start c identifier host
    let log := s.lifetime steps orphaned
    (s.behind log).probe.nextSequence.toNat = (numbered log).length % 65536 ∧
    (∀ k m, (numbered log)[k]? = some m →
      m.sequence.toNat = k % 65536 ∧
      ∀ now ping, m.step = .send now ping → ∀ call ∈ m.calls, call.isTransmission = true →
        ∃ socket packet sent, call = .sendTo socket ping.address 0 packet sent ∧
          Echo.Request.encode
            { destination := ping.address, identifier, sequence := k.toUInt16,
              payloadSize := ping.payloadSize, dontFragment := !ping.allowFragment } now =
            .ok packet) ∧
    (∀ i, ((((numbered log).map (·.sequence)).drop i).take 65536).Nodup) ∧
    ∀ m ∈ log, m.step.isNumbered = false →
      m.after.probe.nextSequence = m.before.probe.nextSequence := by
  intro s log
  have hlaw : ∀ m ∈ log, Numbering m := numbering_of_mem_lifetime hopen steps orphaned
  have hconsecutive : Consecutive s log := s.consecutive_lifetime steps orphaned
  have hfirst : s.probe.nextSequence = 0 := rfl
  obtain ⟨hsequence, hbehind⟩ := sequence_numbered hconsecutive hlaw
  simp only [hfirst, UInt16.zero_add] at hsequence hbehind
  refine ⟨?_, ?_, ?_, ?_⟩
  · rw [hbehind]
    rfl
  · intro k m hm
    have hnumber : m.sequence = k.toUInt16 := by
      have hk : ((numbered log).map (·.sequence))[k]? = some m.sequence := by
        rw [List.getElem?_map, hm]
        rfl
      obtain ⟨hlt, -⟩ := List.getElem?_eq_some_iff.mp hm
      rw [hsequence, List.getElem?_map, List.getElem?_range hlt] at hk
      exact (Option.some.inj hk).symm
    refine ⟨congrArg UInt16.toNat hnumber, ?_⟩
    intro now ping hstep call hcall htransmission
    have hmem : m ∈ log := List.mem_of_mem_filter (List.mem_of_getElem? hm)
    obtain ⟨socket, packet, sent, hsent, hencode⟩ :=
      (hlaw m hmem).packet now ping hstep call hcall htransmission
    have hidentifier : m.before.probe.identifier = identifier :=
      identifier_of_consecutive hconsecutive hlaw m hmem
    refine ⟨socket, packet, sent, hsent, ?_⟩
    rw [← hencode, request, hidentifier, ← hnumber]
    rfl
  · intro i
    rw [hsequence]
    exact nodup_window ..
  · intro m hm hnumbered
    rw [(hlaw m hm).next, hnumbered]
    exact UInt16.add_zero _

/-- A send that the system refuses, one that is cut short, one that does not fit into a datagram,
and one after the event loop is gone: three numbers are used up. -/
theorem sequence_of_lifetime_refused :
    let script : Script :=
      { refusal := fun _ request =>
          if request = .forbidFragmenting then some .busy else none
        sent := fun _ _ => .ok 12
        controlId := fun _ => 5 }
    let s := Scene.opened 0 {} 0x1234 { script }
    let send (payloadSize : UInt64) (allowFragment : Bool) : Step :=
      .send .epoch ⟨⟨203, 0, 113, 10⟩, payloadSize, allowFragment⟩
    let steps := [send 56 false, .poll, send 56 true, send 65508 true, .wait 1000]
    s.probe.state ≠ .socketFailed ∧
      (s.behind (s.lifetime steps [.poll, send 0 true])).probe.nextSequence.toNat = 3 := by
  intro script s send steps
  have hopen : s.probe.state ≠ .socketFailed := by decide
  refine ⟨hopen, ?_⟩
  rw [(sequence_of_lifetime 0 {} 0x1234 { script } steps [.poll, send 0 true] hopen).1]
  decide +kernel

end PingTun.Probe
