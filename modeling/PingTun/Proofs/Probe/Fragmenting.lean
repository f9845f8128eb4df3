-- SUMMARY: Packets that must not be fragmented are handed over only once the socket is told so.
import PingTun.Proofs.Probe.Listening

/-! # Fragmenting

Two things keep a packet from being fragmented: the flag in its header, and the option of the
socket. They are set by different parts of a send, and they agree on every send of a trace, whatever
the system answers.
-/

namespace PingTun.Probe

/-- What the calls of a send keep to, with what comes of it. -/
structure Guarded (socket : Descriptor) (ping : Ping) (outcome : Outcome) (calls : List Call) :
    Prop where
  once : calls.countP Call.isTransmission ≤ 1
  /-- A packet goes to the address of the ping, and its fragment word says what the ping allows. -/
  addressed : ∀ call ∈ calls, call.isTransmission = true →
    ∃ packet sent, call = .sendTo socket ping.address 0 packet sent ∧
      (packet.drop 6).take 2 = Bytes.ofWord (if ping.allowFragment then 0 else 0x4000)
  /-- In front of a packet that must not be fragmented the socket has been told so. -/
  forbidden : ping.allowFragment = false → ∀ front call back, calls = front ++ call :: back →
    call.isTransmission = true → .forbidFragmenting socket none ∈ front
  refused : ∀ cause, .forbidFragmenting socket (some cause) ∈ calls →
    outcome = .sent false ∧ ∀ call ∈ calls, call.isTransmission = false
  /-- Nothing else keeps a packet back that fits into a datagram. -/
  transmitted : ping.payloadSize.toNat ≤ 65507 →
    ping.allowFragment = true ∨ .forbidFragmenting socket none ∈ calls →
      ∃ call ∈ calls, call.isTransmission = true

/-- A send that makes no calls. -/
theorem guarded_nil {socket : Descriptor} {ping : Ping} (outcome : Outcome)
    (h : Echo.maxPayload < ping.payloadSize.toNat) : Guarded socket ping outcome [] where
  once := Nat.zero_le 1
  addressed := by simp
  forbidden := by simp
  refused := by simp
  transmitted := by
    intro hsmall
    exact absurd hsmall (Nat.not_le_of_lt h)

/-- A packet with the fragment word that the ping stands for is guarded by the calls that are made
for it. -/
theorem Transmits.guarded {socket : Descriptor} {packet : List UInt8} {ping : Ping}
    {result : Except Echo.SendError Unit} {calls : List Call}
    (h : Transmits socket packet ping result calls)
    (hword : (packet.drop 6).take 2 = Bytes.ofWord (if ping.allowFragment then 0 else 0x4000)) :
    Guarded socket ping (.sent result.isOk) calls := by
  cases h with
  | free sent hallow =>
    refine ⟨Nat.le_refl 1, ?_, ?_, ?_, ?_⟩
    · intro call hcall _
      exact ⟨packet, sent, List.mem_singleton.mp hcall, hword⟩
    · intro hforbid
      rw [hallow] at hforbid
      cases hforbid
    · intro cause hcause
      cases List.mem_singleton.mp hcause
    · intro _ _
      exact ⟨_, List.mem_singleton_self _, rfl⟩
  | whole sent hforbid =>
    refine ⟨Nat.le_refl 1, ?_, ?_, ?_, ?_⟩
    · intro call hcall htransmission
      rcases List.mem_cons.mp hcall with rfl | hlast
      · cases htransmission
      · exact ⟨packet, sent, List.mem_singleton.mp hlast, hword⟩
    · intro _ front call back hcalls htransmission
      cases front with
      | nil =>
        cases hcalls
        cases htransmission
      | cons first front =>
        rw [List.cons_append] at hcalls
        rw [← (List.cons.inj hcalls).1]
        exact List.mem_cons_self
    · intro cause hcause
      simp at hcause
    · intro _ _
      exact ⟨_, List.mem_cons_of_mem _ (List.mem_singleton_self _), rfl⟩
  | refused cause hforbid =>
    refine ⟨Nat.zero_le 1, ?_, ?_, ?_, ?_⟩
    · intro call hcall htransmission
      cases List.mem_singleton.mp hcall
      cases htransmission
    · intro _ front call back hcalls htransmission
      have hcall : call ∈ [Call.forbidFragmenting socket (some cause)] := by simp [hcalls]
      cases List.mem_singleton.mp hcall
      cases htransmission
    · intro _ _
      refine ⟨rfl, ?_⟩
      intro call hcall
      rw [List.mem_singleton.mp hcall]
      rfl
    · intro _ hpermitted
      rcases hpermitted with hallow | htold
      · rw [hforbid] at hallow
        cases hallow
      · cases List.mem_singleton.mp htold

/-- Every send over a socket is guarded. -/
theorem Listens.guarded {identifier : UInt16} {socket : Descriptor} {inbox : Inbox} {s : Scene}
    (h : Listens identifier socket inbox s.probe) (now : Echo.Instant) (ping : Ping) :
    Guarded socket ping (s.moment (.send now ping)).outcome
      (s.moment (.send now ping)).calls := by
  rcases Nat.lt_or_ge Echo.maxPayload ping.payloadSize.toNat with hlarge | hsmall
  · have hsend : s.probe.sendAt s.time now ping s.host = _ :=
      sendAt_of_lt h.state_ne hlarge
    rw [Scene.moment_send hsend, Moment.calls_quiet rfl]
    exact guarded_nil _ hlarge
  · obtain ⟨calls, hcalls, htransmits⟩ :=
      transmits socket (s.probe.packet now ping) ping s.host
    have hsend : s.probe.sendAt s.time now ping s.host = _ := sendAt_socket h.backend_eq hsmall
    rw [Scene.moment_send hsend, Moment.calls_eq hcalls]
    exact htransmits.guarded (fragmentWord_packet s.probe now ping)

/-- Whatever the system answers, and whatever else is done to a probe over a socket: only sends make
calls, and those of every send are guarded. -/
theorem guarded_of_socket (time : Nat) (host : Host) (identifier nextSequence : UInt16)
    (socket : Descriptor) (inbox : Inbox) (steps : List Step) :
    let s : Scene := ⟨time, host, ⟨identifier, nextSequence, .socket socket inbox⟩⟩
    ∀ m ∈ s.trace steps,
      (∀ now ping, m.step = .send now ping → Guarded socket ping m.outcome m.calls) ∧
      ((∀ now ping, m.step ≠ .send now ping) → m.calls = []) := by
  intro s m hm
  let Good (t : Scene) : Prop := ∃ i, Listens identifier socket i t.probe
  have hstep (t : Scene) (step : Step) (ht : Good t) : Good (t.moment step).after := by
    obtain ⟨i, hlistens⟩ := ht
    obtain ⟨j, hafter, -⟩ := hlistens.moment step
    exact ⟨j, hafter⟩
  obtain ⟨⟨i, hlistens⟩, hmoment⟩ :=
    Scene.holds_of_mem_trace hstep (s := s) ⟨inbox, rfl, rfl⟩ hm
  rw [hmoment]
  generalize m.before = t at hlistens
  rw [Scene.step_moment]
  refine ⟨?_, ?_⟩
  · rintro now ping hsend
    rw [hsend]
    exact hlistens.guarded now ping
  · intro hother
    have hquiet : (t.moment m.step).after.host = t.host := by
      cases hstep : m.step with
      | send now ping => exact absurd hstep (hother now ping)
      | advance duration => rfl
      | arrive arrivals => rfl
      | poll => rfl
      | wait duration => rfl
    apply Moment.calls_quiet
    rw [hquiet, Scene.before_moment]

end PingTun.Probe
