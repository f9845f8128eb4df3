-- SUMMARY: What sending a ping comes to, for each backend and each verdict of the system.
import PingTun.Probe.Sending

/-! # Sends

A ping that does not fit into a datagram changes nothing at all. Any other uses up a sequence
number, and then its packet goes to the simulation or to the system. Of the system at most two
things are asked: not to fragment, if the packet must not be, and to send the packet.
-/

namespace PingTun.Probe

/-! ## Packets -/

/-- The packet that stands for a ping at this point. -/
def packet (p : Probe) (now : Echo.Instant) (ping : Ping) : List UInt8 :=
  (p.request ping).ipHeader ++ (p.request ping).message now

theorem encode_request_of_lt {p : Probe} {now : Echo.Instant} {ping : Ping}
    (h : Echo.maxPayload < ping.payloadSize.toNat) :
    (p.request ping).encode now = .error (.payloadTooLarge ping.payloadSize.toNat) :=
  if_pos h

theorem encode_request_of_le {p : Probe} {now : Echo.Instant} {ping : Ping}
    (h : ping.payloadSize.toNat ≤ Echo.maxPayload) :
    (p.request ping).encode now = .ok (p.packet now ping) :=
  if_neg (Nat.not_lt.mpr h)

/-- The fragment word stands behind the length and the identifier. -/
theorem fragmentWord_packet (p : Probe) (now : Echo.Instant) (ping : Ping) :
    ((p.packet now ping).drop 6).take 2 =
      Bytes.ofWord (if ping.allowFragment then 0 else 0x4000) := by
  change Bytes.ofWord (p.request ping).fragmentWord = _
  cases hallow : ping.allowFragment with
  | true => simp [request, Echo.Request.fragmentWord, hallow]
  | false => simp [request, Echo.Request.fragmentWord, hallow, Echo.dontFragmentFlag]

/-! ## The system -/

/-- What a send comes to once the system has given its answer on the packet. -/
def verdict (packet : List UInt8) : Except Errno Nat → Except Echo.SendError Unit
  | .ok sent => if sent = packet.length then .ok () else .error (.shortWrite sent packet.length)
  | .error cause => .error (if cause = .again then .wouldBlock else .send cause)

/-- The calls that are made for a packet, and what they come to: the packet is sent at once, or
once the socket has been told not to fragment, or not at all. -/
inductive Transmits (socket : Descriptor) (packet : List UInt8) (ping : Ping) :
    Except Echo.SendError Unit → List Call → Prop
  | free (sent : Except Errno Nat) : ping.allowFragment = true →
    Transmits socket packet ping (verdict packet sent)
      [.sendTo socket ping.address 0 packet sent]
  | whole (sent : Except Errno Nat) : ping.allowFragment = false →
    Transmits socket packet ping (verdict packet sent)
      [.forbidFragmenting socket none, .sendTo socket ping.address 0 packet sent]
  | refused (cause : Errno) : ping.allowFragment = false →
    Transmits socket packet ping (.error (.dontFragment cause))
      [.forbidFragmenting socket (some cause)]

/-- A packet that is handed over decides what comes of the ping, and nothing is asked behind it. -/
theorem Transmits.of_mem {socket : Descriptor} {packet : List UInt8} {ping : Ping}
    {result : Except Echo.SendError Unit} {calls : List Call}
    (h : Transmits socket packet ping result calls) {call : Call} (hcall : call ∈ calls)
    (htransmission : call.isTransmission = true) :
    ∃ sent, call = .sendTo socket ping.address 0 packet sent ∧ result = verdict packet sent ∧
      calls.getLast? = some call := by
  cases h with
  | free sent hallow =>
    cases List.mem_singleton.mp hcall
    exact ⟨sent, rfl, rfl, rfl⟩
  | whole sent hforbid =>
    rcases List.mem_cons.mp hcall with rfl | hlast
    · cases htransmission
    · cases List.mem_singleton.mp hlast
      exact ⟨sent, rfl, rfl, rfl⟩
  | refused cause hforbid =>
    cases List.mem_singleton.mp hcall
    cases htransmission

/-- A packet that may be fragmented is sent at once. -/
theorem transmit_of_allow {socket : Descriptor} {packet : List UInt8} {ping : Ping}
    (hallow : ping.allowFragment = true) (host : Host) :
    transmit socket packet ping host =
      let sent := host.script.sent host.log packet
      (verdict packet sent, host.record (.sendTo socket ping.address 0 packet sent)) := by
  simp only [transmit, hallow, if_pos, pure_bind]
  simp only [bind, StateT.bind, Host.sendTo]
  cases host.script.sent host.log packet with
  | ok sent => rfl
  | error cause => rfl

/-- Any other is sent once the system no longer fragments what comes from the socket. -/
theorem transmit_of_forbid {socket : Descriptor} {packet : List UInt8} {ping : Ping}
    (hforbid : ping.allowFragment = false) (host : Host) :
    transmit socket packet ping host =
      match host.refusal? .forbidFragmenting with
      | some cause =>
        (.error (.dontFragment cause), host.record (.forbidFragmenting socket (some cause)))
      | none =>
        let told := host.record (.forbidFragmenting socket none)
        let sent := told.script.sent told.log packet
        (verdict packet sent, told.record (.sendTo socket ping.address 0 packet sent)) := by
  simp only [transmit, hforbid, Bool.false_eq_true, if_false, bind, StateT.bind, pure,
    Host.forbidFragmenting, Host.ask]
  cases hrefusal : host.refusal? .forbidFragmenting with
  | some cause => rfl
  | none =>
    generalize host.record (.forbidFragmenting socket none) = told
    simp only [StateT.bind, Host.sendTo]
    cases told.script.sent told.log packet with
    | ok sent => rfl
    | error cause => rfl

/-- What a socket is told in front of the packet of a ping, if the system does not refuse it. -/
def told (socket : Descriptor) (ping : Ping) : List Call :=
  if ping.allowFragment then [] else [.forbidFragmenting socket none]

/-- Why the system would not keep the packet of a ping whole, if that is asked of it. -/
def wholeRefusal? (ping : Ping) (host : Host) : Option Errno :=
  if ping.allowFragment then none else host.script.refusal host.log .forbidFragmenting

/-- What the system says to the packet, once the socket has been told that. The log has the latest call
first. -/
def answerTo (socket : Descriptor) (packet : List UInt8) (ping : Ping) (host : Host) :
    Except Errno Nat :=
  host.script.sent (told socket ping ++ host.log) packet

/-- The calls that a packet takes, as the system answers them. -/
def callsFor (socket : Descriptor) (packet : List UInt8) (ping : Ping) (host : Host) : List Call :=
  match wholeRefusal? ping host with
  | some cause => [.forbidFragmenting socket (some cause)]
  | none =>
    told socket ping ++
      [.sendTo socket ping.address 0 packet (answerTo socket packet ping host)]

section

variable (socket : Descriptor) (packet : List UInt8) {ping : Ping} {host : Host} {cause : Errno}

theorem allowFragment_of_wholeRefusal (h : wholeRefusal? ping host = some cause) :
    ping.allowFragment = false := by
  cases hallow : ping.allowFragment with
  | true => simp [wholeRefusal?, hallow] at h
  | false => rfl

/-- A packet that would not be kept whole is not sent. -/
theorem transmit_refused (h : wholeRefusal? ping host = some cause) :
    transmit socket packet ping host =
      (.error (.dontFragment cause), host.record (.forbidFragmenting socket (some cause))) := by
  have hforbid := allowFragment_of_wholeRefusal h
  have hrefusal : host.refusal? .forbidFragmenting = some cause := by
    simpa [wholeRefusal?, Host.refusal?, hforbid] using h
  rw [transmit_of_forbid hforbid, hrefusal]

/-- Any other is sent, once. -/
theorem transmit_answered (h : wholeRefusal? ping host = none) :
    (transmit socket packet ping host).1 = verdict packet (answerTo socket packet ping host) ∧
      (transmit socket packet ping host).2.script = host.script ∧
      (transmit socket packet ping host).2.calls = host.calls ++ (told socket ping ++
        [.sendTo socket ping.address 0 packet (answerTo socket packet ping host)]) := by
  cases hallow : ping.allowFragment with
  | true =>
    have htold : told socket ping = [] := by simp [told, hallow]
    rw [transmit_of_allow hallow, answerTo, htold]
    exact ⟨rfl, rfl, Host.calls_record ..⟩
  | false =>
    have hrefusal : host.refusal? .forbidFragmenting = none := by
      simpa [wholeRefusal?, Host.refusal?, hallow] using h
    have htold : told socket ping = [.forbidFragmenting socket none] := by simp [told, hallow]
    rw [transmit_of_forbid hallow, hrefusal, answerTo, htold]
    refine ⟨rfl, rfl, ?_⟩
    dsimp only
    rw [Host.calls_record, Host.calls_record, List.append_assoc]
    rfl

end

theorem calls_transmit (socket : Descriptor) (packet : List UInt8) (ping : Ping) (host : Host) :
    (transmit socket packet ping host).2.calls =
      host.calls ++ callsFor socket packet ping host := by
  unfold callsFor
  cases hrefusal : wholeRefusal? ping host with
  | some cause => rw [transmit_refused socket packet hrefusal, Host.calls_record]
  | none => exact (transmit_answered socket packet hrefusal).2.2

theorem transmits_callsFor (socket : Descriptor) (packet : List UInt8) (ping : Ping)
    (host : Host) :
    Transmits socket packet ping (transmit socket packet ping host).1
      (callsFor socket packet ping host) := by
  unfold callsFor
  cases hrefusal : wholeRefusal? ping host with
  | some cause =>
    rw [transmit_refused socket packet hrefusal]
    exact .refused cause (allowFragment_of_wholeRefusal hrefusal)
  | none =>
    rw [(transmit_answered socket packet hrefusal).1]
    cases hallow : ping.allowFragment with
    | true => simpa [told, hallow] using .free _ hallow
    | false => simpa [told, hallow] using .whole _ hallow

theorem transmits (socket : Descriptor) (packet : List UInt8) (ping : Ping) (host : Host) :
    ∃ calls, (transmit socket packet ping host).2.calls = host.calls ++ calls ∧
      Transmits socket packet ping (transmit socket packet ping host).1 calls :=
  ⟨_, calls_transmit .., transmits_callsFor ..⟩

/-- A system that refuses nothing, and sends every packet whole. -/
def Accepts (host : Host) : Prop := ∃ controlId, host.script = ({} : Refusals).script controlId

/-- Such a system sends a packet, whatever the ping allows. -/
theorem transmit_of_accepts {host : Host} (h : Accepts host) (socket : Descriptor)
    (packet : List UInt8) (ping : Ping) :
    (transmit socket packet ping host).1 = .ok () ∧
      Accepts (transmit socket packet ping host).2 ∧
      ∃ told : Option Call, (∀ call ∈ told, call = .forbidFragmenting socket none) ∧
        (transmit socket packet ping host).2.calls =
          host.calls ++
            (told.toList ++ [.sendTo socket ping.address 0 packet (.ok packet.length)]) := by
  obtain ⟨controlId, hscript⟩ := h
  have hrefusal : wholeRefusal? ping host = none := by
    rw [wholeRefusal?, hscript]
    exact ite_self none
  have hanswer : answerTo socket packet ping host = .ok packet.length := by
    rw [answerTo, hscript]
    rfl
  have htold : (told socket ping).head?.toList = told socket ping := by
    rw [told]
    split
    · rfl
    · rfl
  obtain ⟨hresult, hkept, hcalls⟩ := transmit_answered socket packet hrefusal
  rw [hanswer] at hresult hcalls
  refine ⟨hresult.trans (if_pos rfl), ⟨controlId, hkept.trans hscript⟩, (told socket ping).head?,
    ?_, ?_⟩
  · intro call hcall
    have hmem : call ∈ told socket ping := List.mem_of_head? hcall
    rw [told] at hmem
    split at hmem
    · cases hmem
    · exact List.mem_singleton.mp hmem
  · rw [htold, hcalls]

/-! ## The backends -/

theorem state_eq_socketFailed {p : Probe} : p.state = .socketFailed ↔ p.backend = .failed := by
  unfold state
  cases p.backend <;> simp

variable {p : Probe} {time : Nat} {now : Echo.Instant} {ping : Ping} {host : Host}

theorem sendAt_failed (hp : p.backend = .failed) :
    p.sendAt time now ping host = ((false, p, []), host) := by
  unfold sendAt attempt
  rw [hp]
  rfl

/-- A ping that does not fit into a datagram is only logged. -/
theorem sendAt_of_lt (hp : p.state ≠ .socketFailed)
    (h : Echo.maxPayload < ping.payloadSize.toNat) :
    p.sendAt time now ping host =
      ((false, p, [.sendFailed ping.address ping.payloadSize]), host) := by
  unfold sendAt attempt
  cases hb : p.backend with
  | failed => simp [state, hb] at hp
  | socket socket inbox => simp only [encode_request_of_lt h]; rfl
  | simulated simulation => simp only [encode_request_of_lt h]; rfl

/-- A simulation has every ping sent that fits into a datagram. -/
theorem sendAt_simulated {simulation : Simulation} (hp : p.backend = .simulated simulation)
    (h : ping.payloadSize.toNat ≤ Echo.maxPayload) :
    p.sendAt time now ping host =
      ((true,
        { p with
          nextSequence := p.nextSequence + 1
          backend := .simulated (simulation.schedule time ping.address).1 },
        [(simulation.schedule time ping.address).2]), host) := by
  unfold sendAt attempt
  simp only [hp, encode_request_of_le h]
  rfl

/-- Over a socket it is the system that decides. -/
theorem sendAt_socket {socket : Descriptor} {inbox : Inbox}
    (hp : p.backend = .socket socket inbox) (h : ping.payloadSize.toNat ≤ Echo.maxPayload) :
    p.sendAt time now ping host =
      let answer := transmit socket (p.packet now ping) ping host
      ((answer.1.isOk, { p with nextSequence := p.nextSequence + 1 }, sendEvents ping answer.1),
        answer.2) := by
  obtain ⟨identifier, nextSequence, backend⟩ := p
  cases hp
  unfold sendAt attempt
  simp only [encode_request_of_le h]
  rfl

/-! ## The event loop -/

/-- A ping is aborted if there is no event loop to set the timer in that it needs. -/
theorem send_eq (p : Probe) (eventLoop : EventLoop) (now : Echo.Instant) (ping : Ping)
    (host : Host) :
    p.send eventLoop now ping host =
      if !eventLoop.running && p.needsTimer ping then (.error .timerSet, host)
      else (.ok (p.sendAt eventLoop.now now ping host).1,
        (p.sendAt eventLoop.now now ping host).2) := by
  unfold send
  split
  · rfl
  · rfl

end PingTun.Probe
