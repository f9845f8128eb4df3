-- SUMMARY: Which pings are accepted, and what is logged of those that are not.
import PingTun.Proofs.Probe.Sends

/-! # Acceptance

A ping can come to nothing at several points: there may be no socket, no datagram may hold it, the
system may not be willing to keep it whole, and it may not send the packet, or not all of it. The
caller only gets to know whether the ping was accepted, which is laid down beforehand: by the probe,
by the ping and by what the system says to the calls that are made for it. These are made once each,
and a ping that is not accepted is logged with one event.
-/

namespace PingTun

theorem Errno.kind_eq_wouldBlock {e : Errno} : e.kind = .wouldBlock ↔ e = .again := by
  obtain ⟨code⟩ := e
  rw [kind, again]
  split <;> simp_all

/-- Whether the call handed over a packet, and would have had to wait. -/
def Call.isBlocked : Call → Bool
  | .sendTo _ _ _ _ (.error cause) => cause.kind = .wouldBlock
  | _ => false

namespace Probe

/-! ## What a ping takes -/

/-- What it takes for a ping to be accepted: a probe that works on something, and a datagram that
holds the payload. Over a socket the system must not refuse to keep the packet whole, if that is
asked of it, and must say that it has sent all of it. -/
def Served (p : Probe) (now : Echo.Instant) (ping : Ping) (host : Host) : Prop :=
  p.state ≠ .socketFailed ∧ ping.payloadSize.toNat ≤ 65507 ∧
  ∀ socket inbox, p.backend = .socket socket inbox →
    wholeRefusal? ping host = none ∧
    ∃ packet, (p.request ping).encode now = .ok packet ∧
      answerTo socket packet ping host = .ok packet.length

/-- Calls among which none is made again, and none behind one that was the end of it. -/
structure Sparing (calls : List Call) : Prop where
  once : calls.countP Call.isTransmission ≤ 1
  last : ∀ call ∈ calls, call.isTransmission = true → calls.getLast? = some call
  refused : ∀ socket cause, .forbidFragmenting socket (some cause) ∈ calls →
    calls = [.forbidFragmenting socket (some cause)]

/-- What becomes of a ping on a host, with the calls that are made for it: whether it is accepted,
the probe as it is then, and what is logged. -/
structure Settled (p : Probe) (now : Echo.Instant) (ping : Ping) (host : Host) (calls : List Call)
    (accepted : Bool) (q : Probe) (events : List Event) : Prop where
  accepted_iff : accepted = true ↔ p.Served now ping host
  /-- A socket is asked for all that the packet takes, and for nothing else. -/
  asked : ∀ socket inbox, p.backend = .socket socket inbox → ping.payloadSize.toNat ≤ 65507 →
    ∃ packet, (p.request ping).encode now = .ok packet ∧ calls = callsFor socket packet ping host
  /-- Where there is no socket or no packet, nothing is asked of the system. -/
  unasked : (∀ socket inbox, p.backend = .socket socket inbox → 65507 < ping.payloadSize.toNat) →
    calls = []
  sparing : Sparing calls
  /-- All of a packet has to be sent. -/
  whole : ∀ socket address port packet sent,
    .sendTo socket address port packet (.ok sent) ∈ calls →
      (accepted = true ↔ sent = packet.length)
  unwarned : accepted = true → ∀ event ∈ events, event.level = .debug
  logged : accepted = false → p.state ≠ .socketFailed →
    events = [if calls.any Call.isBlocked then .sendBlocked ping.address
      else .sendFailed ping.address ping.payloadSize]
  warned : accepted = false → p.state ≠ .socketFailed →
    events.map (fun event => (event.level, event.messageId)) =
      [(.warn, if calls.any Call.isBlocked then "Hs8dLq3v" else "Ny5cEw0p")]
  /-- That there is no socket was logged before. -/
  silent : p.state = .socketFailed → events = [] ∧ calls = [] ∧ q = p
  /-- What is not accepted is not answered. -/
  unanswered : accepted = false → p.state = .simulated → calls = [] ∧ q = p

/-! ## Over a socket -/

section

variable {socket : Descriptor} {packet : List UInt8} {ping : Ping}
  {result : Except Echo.SendError Unit} {calls : List Call} {sent : Except Errno Nat}

theorem isOk_verdict : (verdict packet sent).isOk = true ↔ sent = .ok packet.length := by
  cases sent with
  | error cause => exact iff_of_false nofun nofun
  | ok count =>
    by_cases hcount : count = packet.length
    · rw [verdict, if_pos hcount, hcount]
      exact iff_of_true rfl rfl
    · rw [verdict, if_neg hcount]
      exact iff_of_false nofun fun h => hcount (Except.ok.inj h)

/-- The event of a packet that was handed over, and not sent. -/
theorem sendEvents_verdict (h : (verdict packet sent).isOk = false) :
    sendEvents ping (verdict packet sent) =
      [if (Call.sendTo socket ping.address 0 packet sent).isBlocked then .sendBlocked ping.address
        else .sendFailed ping.address ping.payloadSize] := by
  cases sent with
  | ok count =>
    have hcount : count ≠ packet.length := by
      rintro rfl
      rw [isOk_verdict.mpr rfl] at h
      cases h
    rw [verdict, if_neg hcount]
    rfl
  | error cause =>
    by_cases hcause : cause = .again
    · rw [verdict, if_pos hcause, Call.isBlocked, if_pos]
      · rfl
      · exact decide_eq_true (Errno.kind_eq_wouldBlock.mpr hcause)
    · rw [verdict, if_neg hcause, Call.isBlocked, if_neg]
      · rfl
      · rw [decide_eq_true_iff, Errno.kind_eq_wouldBlock]
        exact hcause

/-- What the system says decides whether a packet is sent. -/
theorem isOk_transmit (socket : Descriptor) (packet : List UInt8) (ping : Ping) (host : Host) :
    (transmit socket packet ping host).1.isOk = true ↔
      wholeRefusal? ping host = none ∧
        answerTo socket packet ping host = .ok packet.length := by
  cases hrefusal : wholeRefusal? ping host with
  | some cause =>
    rw [transmit_refused socket packet hrefusal]
    exact iff_of_false nofun nofun
  | none =>
    rw [(transmit_answered socket packet hrefusal).1, isOk_verdict]
    exact (and_iff_right rfl).symm

namespace Transmits

variable (h : Transmits socket packet ping result calls)
include h

theorem isOk_iff_of_mem {descriptor : Descriptor} {address : Address} {port : UInt16}
    {bytes : List UInt8} {count : Nat}
    (hcall : .sendTo descriptor address port bytes (.ok count) ∈ calls) :
    result.isOk = true ↔ count = bytes.length := by
  obtain ⟨sent, hsent, hresult, -⟩ := h.of_mem hcall rfl
  cases hsent
  rw [hresult, isOk_verdict, Except.ok.injEq]

theorem sparing : Sparing calls where
  once := by
    cases h with
    | free => exact Nat.le_refl 1
    | whole => exact Nat.le_refl 1
    | refused => exact Nat.zero_le 1
  last := by
    intro call hcall htransmission
    obtain ⟨-, -, -, hlast⟩ := h.of_mem hcall htransmission
    exact hlast
  refused := by
    intro descriptor cause hcall
    cases h with
    | free => cases List.mem_singleton.mp hcall
    | whole => simp at hcall
    | refused => rw [List.mem_singleton.mp hcall]

theorem sendEvents_of_isOk (hok : result.isOk = true) : sendEvents ping result = [] := by
  cases result with
  | ok => rfl
  | error e => cases hok

theorem sendEvents_eq (hfailed : result.isOk = false) : sendEvents ping result =
    [if calls.any Call.isBlocked then .sendBlocked ping.address
      else .sendFailed ping.address ping.payloadSize] := by
  cases h with
  | free sent hallow => rw [sendEvents_verdict hfailed, List.any_cons, List.any_nil, Bool.or_false]
  | whole sent hforbid =>
    rw [sendEvents_verdict hfailed, List.any_cons, List.any_cons, List.any_nil, Bool.or_false]
    rfl
  | refused => rfl

end Transmits

end

/-! ## Any backend -/

variable {p : Probe} {time : Nat} {now : Echo.Instant} {ping : Ping} {host : Host}

theorem map_warned (blocked : Bool) :
    [if blocked then Event.sendBlocked ping.address
      else .sendFailed ping.address ping.payloadSize].map (fun e => (e.level, e.messageId)) =
      [(.warn, if blocked then "Hs8dLq3v" else "Ny5cEw0p")] := by
  cases blocked with
  | false => rfl
  | true => rfl

theorem sparing_nil : Sparing [] := ⟨Nat.zero_le 1, List.forall_mem_nil _, nofun⟩

/-- Without a socket that was opened there is nothing to be done. -/
theorem settled_failed (hp : p.state = .socketFailed) : Settled p now ping host [] false p [] where
  accepted_iff := iff_of_false nofun fun h => h.1 hp
  asked := fun _ _ hsocket => by simp [state, hsocket] at hp
  unasked := fun _ => rfl
  sparing := sparing_nil
  whole := nofun
  unwarned := nofun
  logged := fun _ h => absurd hp h
  warned := fun _ h => absurd hp h
  silent := fun _ => ⟨rfl, rfl, rfl⟩
  unanswered := fun _ _ => ⟨rfl, rfl⟩

/-- A ping that no datagram holds. -/
theorem settled_of_lt (hp : p.state ≠ .socketFailed)
    (h : Echo.maxPayload < ping.payloadSize.toNat) :
    Settled p now ping host [] false p [.sendFailed ping.address ping.payloadSize] where
  accepted_iff := iff_of_false nofun fun hserved => Nat.not_le_of_lt h hserved.2.1
  asked := fun _ _ _ hle => absurd hle (Nat.not_le_of_lt h)
  unasked := fun _ => rfl
  sparing := sparing_nil
  whole := nofun
  unwarned := nofun
  logged := fun _ _ => rfl
  warned := fun _ _ => rfl
  silent := fun hfailed => absurd hfailed hp
  unanswered := fun _ _ => ⟨rfl, rfl⟩

theorem settled_simulated {simulation : Simulation} (hp : p.backend = .simulated simulation)
    (h : ping.payloadSize.toNat ≤ Echo.maxPayload) (q : Probe) :
    Settled p now ping host [] true q [(simulation.schedule time ping.address).2] where
  accepted_iff := by
    refine iff_of_true rfl ⟨?_, h, fun socket inbox hsocket => ?_⟩
    · simp [state, hp]
    · rw [hp] at hsocket
      cases hsocket
  asked := by
    intro socket inbox hsocket
    rw [hp] at hsocket
    cases hsocket
  unasked := fun _ => rfl
  sparing := sparing_nil
  whole := nofun
  unwarned := by
    rintro - event hevent
    rw [List.mem_singleton.mp hevent, Simulation.schedule]
    split
    · rfl
    · rfl
  logged := nofun
  warned := nofun
  silent := by simp [state, hp]
  unanswered := nofun

theorem settled_socket {socket : Descriptor} {inbox : Inbox}
    (hp : p.backend = .socket socket inbox) (h : ping.payloadSize.toNat ≤ Echo.maxPayload)
    (q : Probe) :
    let answer := transmit socket (p.packet now ping) ping host
    Settled p now ping host (callsFor socket (p.packet now ping) ping host) answer.1.isOk q
      (sendEvents ping answer.1) :=
  have ht := transmits_callsFor socket (p.packet now ping) ping host
  { accepted_iff := by
      rw [isOk_transmit, Served]
      constructor
      · rintro ⟨hwhole, hsent⟩
        refine ⟨by simp [state, hp], h, fun socket' inbox' hsocket => ?_⟩
        cases hp.symm.trans hsocket
        exact ⟨hwhole, _, encode_request_of_le h, hsent⟩
      · rintro ⟨-, -, hserved⟩
        obtain ⟨hwhole, packet, hpacket, hsent⟩ := hserved socket inbox hp
        cases hpacket.symm.trans (encode_request_of_le h)
        exact ⟨hwhole, hsent⟩
    asked := by
      intro socket' inbox' hsocket _
      cases hp.symm.trans hsocket
      exact ⟨_, encode_request_of_le h, rfl⟩
    unasked := fun hnone => absurd (hnone socket inbox hp) (Nat.not_lt_of_le h)
    sparing := ht.sparing
    whole := fun _ _ _ _ _ hcall => ht.isOk_iff_of_mem hcall
    unwarned := by
      intro hok
      rw [ht.sendEvents_of_isOk hok]
      exact List.forall_mem_nil _
    logged := fun hfailed _ => ht.sendEvents_eq hfailed
    warned := by
      intro hfailed _
      rw [ht.sendEvents_eq hfailed]
      exact map_warned _
    silent := by simp [state, hp]
    unanswered := by simp [state, hp] }

/-- Every ping is settled, whatever the probe works on and whatever the system answers. -/
theorem settled_sendAt (p : Probe) (time : Nat) (now : Echo.Instant) (ping : Ping) (host : Host) :
    ∃ calls, (p.sendAt time now ping host).2.calls = host.calls ++ calls ∧
      Settled p now ping host calls (p.sendAt time now ping host).1.1
        (p.sendAt time now ping host).1.2.1 (p.sendAt time now ping host).1.2.2 := by
  by_cases hfailed : p.state = .socketFailed
  · rw [sendAt_failed (state_eq_socketFailed.mp hfailed)]
    exact ⟨[], (List.append_nil _).symm, settled_failed hfailed⟩
  rcases Nat.lt_or_ge Echo.maxPayload ping.payloadSize.toNat with hlarge | hsmall
  · rw [sendAt_of_lt hfailed hlarge]
    exact ⟨[], (List.append_nil _).symm, settled_of_lt hfailed hlarge⟩
  cases hbackend : p.backend with
  | failed => simp [state, hbackend] at hfailed
  | simulated simulation =>
    rw [sendAt_simulated hbackend hsmall]
    exact ⟨[], (List.append_nil _).symm, settled_simulated hbackend hsmall _⟩
  | socket socket inbox =>
    rw [sendAt_socket hbackend hsmall]
    exact ⟨_, calls_transmit .., settled_socket hbackend hsmall _⟩

/-! ## With and without the event loop -/

/-- A ping is settled at once, on every probe, whatever the system answers to the calls that are
made for it. Only where there is no event loop left, and a timer would have to be set in it, there
is no answer at all; nothing is asked of the system then. -/
theorem settled_of_send (p : Probe) (eventLoop : EventLoop) (now : Echo.Instant) (ping : Ping)
    (host : Host) :
    match p.send eventLoop now ping host with
    | (.ok (accepted, q, events), after) =>
      (eventLoop.running = true ∨ p.needsTimer ping = false) ∧
      ∃ calls, after.calls = host.calls ++ calls ∧
        Settled p now ping host calls accepted q events
    | (.error _, after) =>
      eventLoop.running = false ∧ p.needsTimer ping = true ∧ after = host := by
  rw [send_eq]
  cases haborted : !eventLoop.running && p.needsTimer ping with
  | true =>
    rw [Bool.and_eq_true_iff, Bool.not_eq_true'] at haborted
    exact ⟨haborted.1, haborted.2, rfl⟩
  | false =>
    rw [Bool.and_eq_false_iff, Bool.not_eq_false'] at haborted
    exact ⟨haborted, p.settled_sendAt eventLoop.now now ping host⟩

end Probe

end PingTun
