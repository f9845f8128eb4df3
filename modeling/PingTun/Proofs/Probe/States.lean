-- SUMMARY: Which state a probe is opened in, that it stays in it, and that one without a socket is inert.
import PingTun.Proofs.Probe.Opening
import PingTun.Proofs.Probe.Sequence

/-! # States

A probe is in one of three states, which is settled when it is opened: by whether there is an event
loop, by what is configured, and by the system's answers to four requests. Nothing that is done to
it later changes the state. A probe that has got no socket is left with nothing to work on, and
nothing that is done to it changes anything.
-/

namespace PingTun

/-- The system grants all that is needed for a raw socket that is fit for a probe, each request
behind the calls that came of those in front of it. -/
structure Host.GrantsSocket (h : Host) : Prop where
  socket : h.refusal? .openRawSocket = none
  header : h.script.refusal (.openRawSocket (.ok h.next) :: h.log) .includeHeader = none
  nonblocking :
    h.script.refusal (.includeHeader h.next none :: .openRawSocket (.ok h.next) :: h.log)
      .makeNonblocking = none
  readiness :
    h.script.refusal (.makeNonblocking h.next none :: .includeHeader h.next none ::
      .openRawSocket (.ok h.next) :: h.log) .registerReadiness = none

namespace Probe

/-! ## Opening a socket -/

theorem prepare_granted (socket : Descriptor) {h : Host}
    (hheader : h.refusal? .includeHeader = none)
    (hnonblocking : (h.record (.includeHeader socket none)).refusal? .makeNonblocking = none)
    (hreadiness : ((h.record (.includeHeader socket none)).record
      (.makeNonblocking socket none)).refusal? .registerReadiness = none) :
    ∃ after, prepare socket h = (.ok (), after) := by
  have hincluded : Host.includeHeader socket h = (.ok (), _) := Host.ask_granted hheader _
  have hnonblocking : Host.makeNonblocking socket _ = (.ok (), _) :=
    Host.ask_granted hnonblocking _
  have hregistered : Host.registerReadiness socket _ = (.ok (), _) :=
    Host.ask_granted hreadiness _
  unfold prepare
  rw [Host.bind_of_eq hincluded]
  dsimp only
  rw [Host.bind_of_eq hnonblocking]
  exact ⟨_, hregistered⟩

theorem openSocket_of_grants {host : Host} (hgrants : host.GrantsSocket) :
    ∃ after, openSocket host = (.ok host.next, after) := by
  let opened : Host := { host.record (.openRawSocket (.ok host.next)) with
    live := ⟨host.next, .raw, true⟩ :: host.live
    next := host.next + 1 }
  have hopened : Host.openRawSocket host = (.ok host.next, opened) :=
    Host.openDescriptor_granted hgrants.socket ..
  obtain ⟨after, hprepared⟩ := prepare_granted host.next (h := opened)
    hgrants.header hgrants.nonblocking hgrants.readiness
  refine ⟨after, ?_⟩
  unfold openSocket
  rw [Host.bind_of_eq hopened]
  dsimp only
  rw [Host.bind_of_eq hprepared]
  rfl

theorem grants_of_openSocket {host after : Host} {socket : Descriptor}
    (h : openSocket host = (.ok socket, after)) : host.GrantsSocket := by
  unfold openSocket at h
  obtain ⟨opened, between, hopened, h⟩ := Host.granted_of_bind h nofun
  obtain ⟨⟨⟩, prepared, hprepared, h⟩ := Host.granted_of_bind h nofun
  unfold prepare at hprepared
  obtain ⟨⟨⟩, included, hincluded, hprepared⟩ := Host.granted_of_bind hprepared nofun
  obtain ⟨⟨⟩, nonblocking, hnonblocking, hregistered⟩ := Host.granted_of_bind hprepared nofun
  obtain ⟨hsocket, rfl, rfl⟩ := Host.granted_of_openDescriptor hopened
  obtain ⟨hheader, rfl⟩ := Host.granted_of_ask hincluded
  obtain ⟨hmode, rfl⟩ := Host.granted_of_ask hnonblocking
  obtain ⟨hreadiness, -⟩ := Host.granted_of_ask hregistered
  exact ⟨hsocket, hheader, hmode, hreadiness⟩

/-! ## Opening a probe -/

/-- The state in which a probe is opened. -/
theorem state_openedUnder (eventLoop : EventLoop) (c : ProbeConfig) (identifier : UInt16)
    (host : Host) :
    let p := (Scene.openedUnder eventLoop c identifier host).probe
    (p.state = .simulated ↔ eventLoop.running = true ∧ c.simulate = true) ∧
    (p.state = .socketOpen ↔
      eventLoop.running = true ∧ c.simulate = false ∧ host.GrantsSocket) ∧
    (p.state = .socketFailed ↔
      eventLoop.running = false ∨ c.simulate = false ∧ ¬ host.GrantsSocket) := by
  intro p
  cases hrunning : eventLoop.running with
  | false => simp [p, openedUnder_absent hrunning, state]
  | true =>
    cases hsimulate : c.simulate with
    | true => simp [p, openedUnder_simulated hrunning hsimulate, state]
    | false =>
      cases hopen : openSocket host with
      | mk result after =>
        cases result with
        | ok socket =>
          have hgrants := grants_of_openSocket hopen
          simp [p, openedUnder_socket hrunning hsimulate hopen, state, hgrants]
        | error cause =>
          have hrefuses : ¬ host.GrantsSocket := by
            intro hgrants
            obtain ⟨after, hgranted⟩ := openSocket_of_grants hgrants
            rw [hopen] at hgranted
            cases hgranted
          simp [p, openedUnder_socket hrunning hsimulate hopen, state, hrefuses]

/-! ## Probes with nothing to work on -/

section

variable {p : Probe} (hp : p.backend = .failed)

include hp

theorem pollWithin_failed (now steps : Nat) : p.pollWithin now steps = (none, steps, p, []) := by
  simp only [pollWithin, hp]

theorem next_failed (now last : Nat) : p.next now last = (none, p, []) := by
  have hbefore : p.nextBefore p.enoughSteps now last = (none, p, []) := by
    rw [nextBefore]
    simp only [pollWithin_failed hp, wakeTime?, hp]
    split <;> rfl
  simp only [next, nextWithin, hbefore, pollWithin_failed hp]
  rfl

end

/-- Nothing comes of a step, other than that time goes on: no call is made, nothing is sent, and
nothing is yielded. -/
structure Inert (m : Moment) : Prop where
  host : m.after.host = m.before.host
  probe : m.after.probe = m.before.probe
  sent : ∀ now ping, m.step = .send now ping → m.outcome = .sent false
  reply : m.outcome.reply? = none

namespace Scene

variable {s : Scene} (hs : s.probe.backend = .failed)

include hs

theorem inert_moment (step : Step) : Inert (s.moment step) := by
  cases step with
  | send now ping =>
    rw [moment_send (sendAt_failed hs)]
    exact ⟨rfl, rfl, fun _ _ _ => rfl, rfl⟩
  | advance duration => exact ⟨rfl, rfl, by rintro _ _ ⟨⟩, rfl⟩
  | arrive arrivals =>
    refine ⟨rfl, ?_, by rintro _ _ ⟨⟩, rfl⟩
    simp only [moment, arrive, hs]
  | poll =>
    rw [moment_poll (pollWithin_failed hs _ _)]
    exact ⟨rfl, rfl, by rintro _ _ ⟨⟩, rfl⟩
  | wait duration =>
    rw [moment_wait_none (next_failed hs _ _)]
    exact ⟨rfl, rfl, by rintro _ _ ⟨⟩, rfl⟩

theorem inert_orphanLook (step : Step) (hstep : ∀ now ping, step ≠ .send now ping) :
    ∃ m, s.orphanLook step = .ok m ∧ m.before = s ∧ Inert m := by
  simp only [orphanLook, poll, hs]
  exact ⟨_, rfl, rfl, rfl, rfl, fun now ping h => absurd h (hstep now ping), rfl⟩

/-- No step is aborted for want of an event loop. -/
theorem inert_momentUnder (running : Bool) (step : Step) :
    ∃ m, s.momentUnder running step = .ok m ∧ m.before = s ∧ Inert m := by
  cases running with
  | true => exact ⟨_, rfl, before_moment .., inert_moment hs step⟩
  | false =>
    cases step with
    | send now ping =>
      have htimer : s.probe.needsTimer ping = false := by simp only [needsTimer, hs]
      refine ⟨s.moment (.send now ping), ?_, rfl, inert_moment hs _⟩
      rw [momentUnder, if_neg Bool.false_ne_true, orphanMoment, send_of_not_needsTimer htimer]
      rfl
    | advance duration => exact ⟨_, rfl, rfl, inert_moment hs (.advance duration)⟩
    | arrive arrivals => exact ⟨_, rfl, rfl, inert_moment hs (.arrive arrivals)⟩
    | poll => exact inert_orphanLook hs .poll (by rintro _ _ ⟨⟩)
    | wait duration => exact inert_orphanLook hs (.wait duration) (by rintro _ _ ⟨⟩)

theorem length_course_failed (steps : List (Bool × Step)) :
    (s.course steps).length = steps.length := by
  induction steps generalizing s with
  | nil => rfl
  | cons first steps ih =>
    obtain ⟨running, step⟩ := first
    obtain ⟨m, hm, hbefore, hinert⟩ := inert_momentUnder hs running step
    have hafter : m.after.probe.backend = .failed := by rw [hinert.probe, hbefore, hs]
    rw [course, hm]
    exact congrArg (· + 1) (ih hafter)

end Scene

/-! ## Runs -/

/-- No step changes the identifier or the state. -/
theorem keeps_momentUnder {s : Scene} {running : Bool} {step : Step} {m : Moment}
    (h : s.momentUnder running step = .ok m) :
    m.after.probe.identifier = s.probe.identifier ∧ m.after.probe.state = s.probe.state := by
  by_cases hs : s.probe.state = .socketFailed
  · obtain ⟨n, hn, hbefore, hinert⟩ :=
      Scene.inert_momentUnder (state_eq_socketFailed.mp hs) running step
    cases h.symm.trans hn
    rw [hinert.probe, hbefore]
    exact ⟨rfl, rfl⟩
  · have hm : m.before = s ∧ Numbering m := by
      cases running with
      | true =>
        cases h
        exact ⟨Scene.before_moment .., numbering_moment hs step⟩
      | false => exact ⟨Scene.before_orphanMoment h, numbering_orphanMoment hs h⟩
    obtain ⟨rfl, hnumbering⟩ := hm
    exact ⟨hnumbering.identifier, hnumbering.state⟩

/-- A probe keeps its identifier and its state throughout. -/
theorem keeps_of_mem_course (s : Scene) (steps : List (Bool × Step)) :
    ∀ m ∈ s.course steps, m.after.probe.identifier = s.probe.identifier ∧
      m.after.probe.state = s.probe.state := by
  let Same (t : Scene) : Prop :=
    t.probe.identifier = s.probe.identifier ∧ t.probe.state = s.probe.state
  refine Scene.law_of_mem_course Same ?_ ⟨rfl, rfl⟩ steps
  rintro t running step m ⟨hidentifier, hstate⟩ hm
  obtain ⟨hkept, hkept'⟩ := keeps_momentUnder hm
  have hsame : Same m.after := ⟨hkept.trans hidentifier, hkept'.trans hstate⟩
  exact ⟨hsame, hsame⟩

/-- A probe whose socket failed to open stays as it is, and so does the system. -/
theorem inert_of_mem_course {s : Scene} (hs : s.probe.backend = .failed)
    (steps : List (Bool × Step)) :
    ∀ m ∈ s.course steps, Inert m ∧ m.after.host = s.host ∧ m.after.probe = s.probe := by
  let Same (t : Scene) : Prop := t.host = s.host ∧ t.probe = s.probe
  refine Scene.law_of_mem_course Same ?_ ⟨rfl, rfl⟩ steps
  rintro t running step m ⟨hhost, hprobe⟩ hm
  obtain ⟨n, hn, rfl, hinert⟩ := Scene.inert_momentUnder (hprobe ▸ hs) running step
  cases hm.symm.trans hn
  have hsame : Same m.after := ⟨hinert.host.trans hhost, hinert.probe.trans hprobe⟩
  exact ⟨⟨hinert, hsame⟩, hsame⟩

/-- However a probe is opened, it is simulated exactly if there is an event loop and simulation is
configured, its socket is open exactly if there is an event loop, no simulation is configured and the
system grants all four requests, and its socket has failed to open otherwise. Only in the second
case is the system asked anything.

Whatever is done to it later, with an event loop or without, its state and its identifier stay as
they are. If its socket has failed to open, no later step is aborted, makes a call, sends anything,
uses up a sequence number or yields a reply. -/
theorem state_settled_by_opening (eventLoop : EventLoop) (c : ProbeConfig) (identifier : UInt16)
    (host : Host) (steps : List (Bool × Step)) :
    let s := Scene.openedUnder eventLoop c identifier host
    (s.probe.state = .simulated ↔ eventLoop.running = true ∧ c.simulate = true) ∧
    (s.probe.state = .socketOpen ↔
      eventLoop.running = true ∧ c.simulate = false ∧ host.GrantsSocket) ∧
    (s.probe.state = .socketFailed ↔
      eventLoop.running = false ∨ c.simulate = false ∧ ¬ host.GrantsSocket) ∧
    (eventLoop.running = false ∨ c.simulate = true → s.host = host) ∧
    s.probe.identifier = identifier ∧
    (∀ m ∈ s.course steps,
      m.after.probe.state = s.probe.state ∧ m.after.probe.identifier = identifier) ∧
    (s.probe.state = .socketFailed →
      s.probe.nextSequence = 0 ∧ (s.course steps).length = steps.length ∧
      ∀ m ∈ s.course steps,
        m.after.host = s.host ∧ (∀ now ping, m.step = .send now ping → m.outcome = .sent false) ∧
        m.after.probe.nextSequence = 0 ∧ m.outcome.reply? = none) := by
  intro s
  obtain ⟨hsimulated, hopen, hfailed⟩ := state_openedUnder eventLoop c identifier host
  refine ⟨hsimulated, hopen, hfailed, ?_, rfl, ?_, ?_⟩
  · intro hquiet
    cases hrunning : eventLoop.running with
    | false => simp only [s, openedUnder_absent hrunning]
    | true =>
      have hsimulate : c.simulate = true := by simpa [hrunning] using hquiet
      simp only [s, openedUnder_simulated hrunning hsimulate]
  · intro m hm
    obtain ⟨hidentifier, hstate⟩ := keeps_of_mem_course s steps m hm
    exact ⟨hstate, hidentifier⟩
  · intro hs
    have hbackend := state_eq_socketFailed.mp hs
    refine ⟨rfl, Scene.length_course_failed hbackend steps, fun m hm => ?_⟩
    obtain ⟨hinert, hhost, hprobe⟩ := inert_of_mem_course hbackend steps m hm
    exact ⟨hhost, hinert.sent, congrArg Probe.nextSequence hprobe, hinert.reply⟩

end Probe

end PingTun
