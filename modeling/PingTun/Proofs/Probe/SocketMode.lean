-- SUMMARY: Under which mode of its socket a packet is sent: what an earlier send forbade stays forbidden.
import PingTun.Proofs.Probe.Fragmenting
import PingTun.Proofs.Probe.Opening

/-! # The mode of a socket

The header of a packet says anew, for every packet, whether it may be fragmented. The socket is only
ever told not to fragment, and nothing takes that back. So a packet that may be fragmented is sent
under the mode that the socket was opened with as long as no send before it had to forbid
fragmenting, and never again once the system has accepted one that had to.
-/

namespace PingTun

/-- What a socket does with packets that are too long for a part of their way: what it was opened to
do, or it never fragments them (`IP_PMTUDISC_DO`). -/
inductive SocketMode
  | asOpened
  | neverFragment
deriving DecidableEq, Repr

/-- The mode of a socket behind a call, given the mode in front of it. -/
def Call.mode (socket : Descriptor) (mode : SocketMode) : Call → SocketMode
  | .openRawSocket (.ok opened) => if opened = socket then .asOpened else mode
  | .forbidFragmenting told none => if told = socket then .neverFragment else mode
  | _ => mode

/-- The mode of a socket behind a number of calls. -/
def Call.modeBehind (socket : Descriptor) (mode : SocketMode) (calls : List Call) : SocketMode :=
  calls.foldl (Call.mode socket) mode

/-- The mode that a socket is in. -/
def Host.mode (h : Host) (socket : Descriptor) : SocketMode :=
  Call.modeBehind socket .asOpened h.calls

theorem Call.modeBehind_append (socket : Descriptor) (mode : SocketMode) (calls later : List Call) :
    modeBehind socket mode (calls ++ later) =
      modeBehind socket (modeBehind socket mode calls) later :=
  List.foldl_append

theorem Host.mode_of_calls {h after : Host} {calls : List Call}
    (hcalls : after.calls = h.calls ++ calls) (socket : Descriptor) :
    after.mode socket = Call.modeBehind socket (h.mode socket) calls := by
  rw [Host.mode, hcalls, Call.modeBehind_append]
  rfl

namespace Probe

/-- The mode that a socket is in when the packet of a step is handed over, if one is. -/
def Moment.sendMode? (socket : Descriptor) (m : Moment) : Option SocketMode :=
  if m.calls.any Call.isTransmission then
    some (Call.modeBehind socket (m.before.host.mode socket)
      (m.calls.takeWhile fun call => !call.isTransmission))
  else
    none

/-- Whether the system was told in a step not to fragment what comes from a socket, and agreed. -/
def Moment.Forbids (socket : Descriptor) (m : Moment) : Prop :=
  .forbidFragmenting socket none ∈ m.calls

/-! ## One step -/

/-- A step makes no calls, or it is a send and makes those for its packet. -/
theorem Listens.calls_moment {identifier : UInt16} {socket : Descriptor} {inbox : Inbox} {s : Scene}
    (h : Listens identifier socket inbox s.probe) (step : Step) :
    (s.moment step).after.host.calls = s.host.calls ++ (s.moment step).calls ∧
      ((s.moment step).calls = [] ∨ ∃ now ping result, step = .send now ping ∧
        Transmits socket (s.probe.packet now ping) ping result (s.moment step).calls) := by
  have hquiet {m : Moment} (hhost : m.after.host = m.before.host) :
      m.after.host.calls = m.before.host.calls ++ m.calls ∧ m.calls = [] := by
    rw [Moment.calls_quiet hhost, hhost, List.append_nil]
    exact ⟨rfl, rfl⟩
  cases step with
  | send now ping =>
    rcases Nat.lt_or_ge Echo.maxPayload ping.payloadSize.toNat with hlarge | hsmall
    · rw [Scene.moment_send (sendAt_of_lt h.state_ne hlarge)]
      exact (hquiet rfl).imp_right .inl
    · obtain ⟨calls, hcalls, htransmits⟩ :=
        transmits socket (s.probe.packet now ping) ping s.host
      rw [Scene.moment_send (sendAt_socket h.backend_eq hsmall), Moment.calls_eq hcalls]
      exact ⟨hcalls, .inr ⟨now, ping, _, rfl, htransmits⟩⟩
  | advance duration => exact (hquiet rfl).imp_right .inl
  | arrive arrivals => exact (hquiet rfl).imp_right .inl
  | poll => exact (hquiet rfl).imp_right .inl
  | wait duration => exact (hquiet rfl).imp_right .inl

/-- The calls made for a packet leave the socket in its mode, but for an accepted one that forbids
fragmenting. -/
theorem Transmits.mode {socket : Descriptor} {packet : List UInt8} {ping : Ping}
    {result : Except Echo.SendError Unit} {calls : List Call}
    (h : Transmits socket packet ping result calls) (mode : SocketMode) :
    Call.modeBehind socket mode calls = .neverFragment ↔
      mode = .neverFragment ∨ .forbidFragmenting socket none ∈ calls := by
  cases h with
  | free sent hallow => simp [Call.modeBehind, Call.mode]
  | whole sent hforbid => simp [Call.modeBehind, Call.mode]
  | refused cause hforbid => simp [Call.modeBehind, Call.mode]

/-- Only sends that forbid fragmenting change the mode of the socket. -/
theorem Listens.mode_moment {identifier : UInt16} {socket : Descriptor} {inbox : Inbox} {s : Scene}
    (h : Listens identifier socket inbox s.probe) (step : Step) :
    (s.moment step).after.host.mode socket = .neverFragment ↔
      s.host.mode socket = .neverFragment ∨ (s.moment step).Forbids socket := by
  obtain ⟨hcalls, hquiet | ⟨now, ping, result, -, htransmits⟩⟩ := h.calls_moment step
  · rw [Host.mode_of_calls hcalls, Moment.Forbids, hquiet]
    simp [Call.modeBehind]
  · rw [Host.mode_of_calls hcalls]
    exact htransmits.mode _

/-- A packet that may be fragmented is sent under the mode that the socket is in. -/
theorem Listens.sendMode_of_allow {identifier : UInt16} {socket : Descriptor} {inbox : Inbox}
    {s : Scene} (h : Listens identifier socket inbox s.probe) (now : Echo.Instant) {ping : Ping}
    (hallow : ping.allowFragment = true) (hsmall : ping.payloadSize.toNat ≤ Echo.maxPayload) :
    (s.moment (.send now ping)).sendMode? socket = some (s.host.mode socket) := by
  rw [Scene.moment_send (sendAt_socket h.backend_eq hsmall), transmit_of_allow hallow]
  unfold Moment.sendMode?
  rw [Moment.calls_eq (Host.calls_record ..)]
  rfl

/-- Only a send of a packet that must not be fragmented has the system told so. -/
theorem Listens.send_of_forbids {identifier : UInt16} {socket : Descriptor} {inbox : Inbox}
    {s : Scene} (h : Listens identifier socket inbox s.probe) {step : Step}
    (hforbids : (s.moment step).Forbids socket) :
    ∃ now ping, step = .send now ping ∧ ping.allowFragment = false := by
  rw [Moment.Forbids] at hforbids
  obtain ⟨-, hquiet | ⟨now, ping, result, hstep, htransmits⟩⟩ := h.calls_moment step
  · rw [hquiet] at hforbids
    cases hforbids
  · refine ⟨now, ping, hstep, ?_⟩
    generalize (s.moment step).calls = calls at hforbids htransmits
    cases htransmits with
    | free sent hallow => cases List.mem_singleton.mp hforbids
    | whole sent hforbid => exact hforbid
    | refused cause hforbid => exact hforbid

/-! ## Histories -/

/-- The mode of the socket tells whether fragmenting was ever forbidden. -/
theorem Listens.mode_run {identifier : UInt16} {socket : Descriptor} {inbox : Inbox} {s : Scene}
    (h : Listens identifier socket inbox s.probe) (history : List Step) :
    (s.run history).host.mode socket = .neverFragment ↔
      s.host.mode socket = .neverFragment ∨ ∃ m ∈ s.trace history, m.Forbids socket := by
  induction history generalizing s inbox with
  | nil => simp
  | cons step history ih =>
    obtain ⟨later, hafter, -⟩ := h.moment step
    rw [Scene.run_cons, Scene.trace_cons, ih hafter, h.mode_moment step, or_assoc]
    simp

/-- A socket that was just opened is in the mode it was opened with. -/
theorem mode_openSocket {host after : Host} {socket : Descriptor}
    (h : openSocket host = (.ok socket, after)) : after.mode socket = .asOpened := by
  rw [Host.mode_of_calls (calls_of_openSocket h)]
  simp [Call.modeBehind, openingCalls, Call.mode]

/-- Whatever is done to a probe over an open socket, and whatever the system answers: a packet that
may be fragmented is sent under the mode that the socket was opened with, unless the system has
agreed before to forbid fragmenting, for a packet that must not be fragmented. From then on no packet
is sent under that mode. -/
theorem sendMode_of_history (start : Nat) (c : ProbeConfig) (identifier : UInt16) (host : Host)
    (history : List Step) (now : Echo.Instant) (ping : Ping)
    (hopen : (Scene.opened start c identifier host).probe.state = .socketOpen)
    (hallow : ping.allowFragment = true) (hsmall : ping.payloadSize.toNat ≤ Echo.maxPayload) :
    let s := Scene.opened start c identifier host
    ∃ socket mode, s.probe.backend = .socket socket {} ∧
      ((s.run history).moment (.send now ping)).sendMode? socket = some mode ∧
      (mode = .neverFragment ↔ ∃ m ∈ s.trace history, m.Forbids socket) ∧
      ∀ m ∈ s.trace history, m.Forbids socket →
        ∃ now ping, m.step = .send now ping ∧ ping.allowFragment = false := by
  intro s
  obtain ⟨socket, hlistens, hsocket⟩ := listens_opened hopen
  obtain ⟨inbox, hrun, -⟩ := hlistens.trace history
  refine ⟨socket, (s.run history).host.mode socket, hlistens.backend_eq, ?_, ?_, ?_⟩
  · exact hrun.sendMode_of_allow now hallow hsmall
  · have hmode : s.host.mode socket ≠ .neverFragment := by
      rw [mode_openSocket hsocket]
      decide
    rw [hlistens.mode_run, or_iff_right hmode]
  · intro m hm hforbids
    obtain ⟨i, hbefore, hmoment⟩ := hlistens.of_mem_trace hm
    rw [hmoment] at hforbids
    exact hbefore.send_of_forbids hforbids

/-- A ping that may be fragmented, behind one that must not be. -/
theorem sendMode_of_history_told :
    let s := Scene.opened 0 {} 0x1234 { script := ({} : Refusals).script 5 }
    let told : Step := .send .epoch ⟨⟨203, 0, 113, 10⟩, 0, false⟩
    let ping : Ping := ⟨⟨203, 0, 113, 10⟩, 0, true⟩
    s.probe.state = .socketOpen ∧
      ∃ socket, ((s.run [told]).moment (.send .epoch ping)).sendMode? socket =
        some .neverFragment := by
  intro s told ping
  have hopen : s.probe.state = .socketOpen := by decide
  refine ⟨hopen, ?_⟩
  obtain ⟨socket, mode, hbackend, hmode, hforbidden, -⟩ :=
    sendMode_of_history 0 {} 0x1234 _ [told] .epoch ping hopen rfl (by decide)
  refine ⟨socket, ?_⟩
  have htold : mode = .neverFragment := by
    refine hforbidden.mpr ⟨s.moment told, List.mem_singleton_self _, ?_⟩
    cases hbackend
    have hcalls : (s.moment told).calls =
        [.forbidFragmenting 0 none, .sendTo 0 ⟨203, 0, 113, 10⟩ 0 (s.probe.packet .epoch
          ⟨⟨203, 0, 113, 10⟩, 0, false⟩) (.ok 28)] := rfl
    rw [Moment.Forbids, hcalls]
    exact List.mem_cons_self
  rw [hmode, htold]

/-- Two probes over a system that agrees to everything send the same ping, which may be fragmented:
one right after it was opened, the other behind a ping that must not be. -/
theorem sendMode_depends_on_history :
    let s := Scene.opened 0 {} 0x1234 { script := ({} : Refusals).script 5 }
    let told : Step := .send .epoch ⟨⟨203, 0, 113, 10⟩, 0, false⟩
    let ping : Ping := ⟨⟨203, 0, 113, 10⟩, 0, true⟩
    s.probe.backend = .socket 0 {} ∧
      (s.moment (.send .epoch ping)).sendMode? 0 = some .asOpened ∧
      ((s.run [told]).moment (.send .epoch ping)).sendMode? 0 = some .neverFragment := by
  refine ⟨rfl, ?_, ?_⟩
  · decide +kernel
  · decide +kernel

end Probe

end PingTun
