-- SUMMARY: Which probes can do without their event loop once it is gone, and what aborts the others.
import PingTun.Proofs.Probe.Simulated
import PingTun.Proofs.Probe.States

/-! # Orphaned probes

A probe that outlives its event loop is aborted by whatever needs a timer. Sockets need none, nor
does a simulation that answers no request. Any other simulation is aborted sooner or later: polls
use up the replies and the timer that it has, and the next request that is answered needs another.
-/

namespace PingTun

namespace Simulation

/-! ## Looks for a reply -/

/-- To look for a reply needs the event loop: none is overdue, and either the loop does not know of
the timer that is set, or behind the reply that the timer is for there is another one. -/
def Stranded (s : Simulation) : Prop :=
  s.overdue = [] ∧
    ((∃ timer ∈ s.timer, timer.asked = false) ∨ s.ring.2.agenda.next?.isSome = true)

theorem isSome_timer_ring (s : Simulation) :
    s.ring.2.timer.isSome = s.ring.2.agenda.next?.isSome := by
  unfold ring
  dsimp only
  split
  · simp [setTimer]
  · simp [setTimer]

theorem unreachable_ring (s : Simulation) : s.ring.2.unreachable = s.unreachable := by
  unfold ring
  dsimp only
  split
  · rfl
  · rfl

/-- What comes of a look for a reply without an event loop. -/
inductive Looks (s : Simulation) : Except Abort (Option Address × Simulation) → Prop
  | overdue {address : Address} {rest : List Address} : s.overdue = address :: rest →
    Looks s (.ok (some address, { s with overdue := rest }))
  | rung : ¬ s.Stranded → s.overdue = [] → s.ring.2.timer = none → Looks s (.ok s.ring)
  | aborted (abort : Abort) : s.Stranded → Looks s (.error abort)

theorem looks_pollOrphaned (s : Simulation) : s.Looks s.pollOrphaned := by
  unfold pollOrphaned
  split
  · rename_i address rest hoverdue
    exact .overdue hoverdue
  · rename_i hoverdue
    split
    · rename_i hasked
      dsimp only
      split
      · rename_i hleft
        refine .aborted .timerSet ⟨hoverdue, .inr ?_⟩
        rw [← isSome_timer_ring, hleft]
      · rename_i hleft
        have hnone : s.ring.2.timer = none := Option.not_isSome_iff_eq_none.mp hleft
        refine .rung ?_ hoverdue hnone
        rintro ⟨-, ⟨timer, htimer, hunasked⟩ | hreply⟩
        · simp [Option.mem_def.mp htimer, hunasked] at hasked
        · rw [← isSome_timer_ring] at hreply
          exact hleft hreply
    · rename_i hunasked
      refine .aborted .timerAsked ⟨hoverdue, .inl ?_⟩
      cases htimer : s.timer with
      | none => simp [htimer] at hunasked
      | some timer => exact ⟨timer, rfl, by simpa [htimer] using hunasked⟩

end Simulation

namespace Probe

/-! ## Steps that need a timer -/

/-- What is aborted without an event loop: to send a ping that needs a timer, and to look for a
reply that needs one. -/
def Stranded (p : Probe) : Step → Prop
  | .send _ ping => p.needsTimer ping = true
  | .poll | .wait _ => ∃ simulation, p.backend = .simulated simulation ∧ simulation.Stranded
  | .advance _ | .arrive _ => False

namespace Scene

theorem orphanLook_simulated {s : Scene} {simulation : Simulation}
    (hp : s.probe.backend = .simulated simulation) (step : Step) :
    s.orphanLook step = simulation.pollOrphaned.map fun (reply, simulation) =>
      { before := s, step, outcome := .ofReply reply, events := []
        after := { s with probe := { s.probe with backend := .simulated simulation } } } := by
  simp only [orphanLook, Probe.poll, hp]
  cases simulation.pollOrphaned with
  | ok answer => rfl
  | error abort => rfl

theorem orphanLook_error_iff {s : Scene} {step : Step} :
    (∃ abort, s.orphanLook step = .error abort) ↔
      ∃ simulation, s.probe.backend = .simulated simulation ∧ simulation.Stranded := by
  cases hp : s.probe.backend with
  | socket socket inbox =>
    simp only [orphanLook, Probe.poll, hp]
    exact iff_of_false (by rintro ⟨_, ⟨⟩⟩) (by rintro ⟨_, ⟨⟩, -⟩)
  | failed =>
    simp only [orphanLook, Probe.poll, hp]
    exact iff_of_false (by rintro ⟨_, ⟨⟩⟩) (by rintro ⟨_, ⟨⟩, -⟩)
  | simulated simulation =>
    simp only [orphanLook_simulated hp, Backend.simulated.injEq, exists_eq_left']
    have hlooks := simulation.looks_pollOrphaned
    generalize simulation.pollOrphaned = answer at hlooks ⊢
    cases hlooks with
    | overdue hoverdue =>
      refine iff_of_false (by rintro ⟨_, ⟨⟩⟩) fun h => ?_
      simp [Simulation.Stranded, hoverdue] at h
    | rung hnot => exact iff_of_false (by rintro ⟨_, ⟨⟩⟩) hnot
    | aborted abort hstranded => exact iff_of_true ⟨abort, rfl⟩ hstranded

/-- Nothing else is aborted. -/
theorem orphanMoment_error_iff {s : Scene} {step : Step} :
    (∃ abort, s.orphanMoment step = .error abort) ↔ s.probe.Stranded step := by
  cases step with
  | send now ping =>
    cases htimer : s.probe.needsTimer ping with
    | true =>
      rw [orphanMoment, send_of_needsTimer htimer]
      exact iff_of_true ⟨_, rfl⟩ htimer
    | false =>
      rw [orphanMoment, send_of_not_needsTimer htimer]
      exact iff_of_false (by rintro ⟨_, ⟨⟩⟩) (by simp [Stranded, htimer])
  | advance duration => exact iff_of_false (by rintro ⟨_, ⟨⟩⟩) id
  | arrive arrivals => exact iff_of_false (by rintro ⟨_, ⟨⟩⟩) id
  | poll => exact orphanLook_error_iff
  | wait duration => exact orphanLook_error_iff

/-- A run goes on to its end unless it comes to a step that needs a timer. -/
theorem length_orphanTrace_iff (s : Scene) (orphaned : List Step) :
    (s.orphanTrace orphaned).length = orphaned.length ↔
      ∀ front step back, orphaned = front ++ step :: back →
        ¬ (s.behind (s.orphanTrace front)).probe.Stranded step := by
  induction orphaned generalizing s with
  | nil => exact iff_of_true rfl fun front step back h => by simp at h
  | cons step orphaned ih =>
    rw [orphanTrace]
    cases hm : s.orphanMoment step with
    | error abort =>
      refine iff_of_false (Nat.succ_ne_zero _).symm fun hnot => ?_
      exact hnot [] step orphaned rfl (orphanMoment_error_iff.mp ⟨abort, hm⟩)
    | ok m =>
      have hfirst : ¬ s.probe.Stranded step := by
        rw [← orphanMoment_error_iff, hm]
        rintro ⟨_, ⟨⟩⟩
      rw [List.length_cons, List.length_cons, Nat.add_right_cancel_iff, ih]
      constructor
      · intro hlater front other back hsplit
        cases front with
        | nil =>
          cases hsplit
          exact hfirst
        | cons first front =>
          cases hsplit
          rw [orphanTrace, hm, behind_cons]
          exact hlater front other back rfl
      · intro hall front other back hsplit
        have hlater := hall (step :: front) other back (congrArg (step :: ·) hsplit)
        rwa [orphanTrace, hm, behind_cons] at hlater

/-! ## Runs that are aborted -/

theorem aborted_cons {s : Scene} {step : Step} {m : Moment} {orphaned : List Step}
    (hm : s.orphanMoment step = .ok m)
    (h : (m.after.orphanTrace orphaned).length ≠ orphaned.length) :
    (s.orphanTrace (step :: orphaned)).length ≠ (step :: orphaned).length := by
  rw [orphanTrace, hm]
  exact fun hlength => h (Nat.succ.inj hlength)

theorem aborted_singleton {s : Scene} {step : Step} (h : s.probe.Stranded step) :
    (s.orphanTrace [step]).length ≠ [step].length := by
  obtain ⟨abort, hm⟩ := orphanMoment_error_iff.mpr h
  rw [orphanTrace, hm]
  exact (Nat.succ_ne_zero 0).symm

theorem stranded_send {p : Probe} {simulation : Simulation} {address : Address}
    (hp : p.backend = .simulated simulation)
    (hreach : simulation.unreachable.contains address = false) (htimer : simulation.timer = none) :
    p.Stranded (.send .epoch ⟨address, 0, true⟩) := by
  simp [Stranded, needsTimer, hp, Simulation.needsTimer, hreach, htimer]

/-- Polls use up what is overdue, and then the timer. Once there is no timer, a request that is
answered is aborted. -/
theorem exists_aborted {s : Scene} {simulation : Simulation} {address : Address}
    (hp : s.probe.backend = .simulated simulation)
    (hreach : simulation.unreachable.contains address = false) :
    ∃ orphaned, (s.orphanTrace orphaned).length ≠ orphaned.length := by
  induction hoverdue : simulation.overdue generalizing s simulation with
  | nil =>
    have hpoll : s.orphanMoment .poll = _ := orphanLook_simulated hp .poll
    have hlooks := simulation.looks_pollOrphaned
    generalize simulation.pollOrphaned = answer at hpoll hlooks
    cases hlooks with
    | overdue hsome => simp [hoverdue] at hsome
    | rung hnot _ htimer =>
      refine ⟨[.poll, .send .epoch ⟨address, 0, true⟩], aborted_cons hpoll (aborted_singleton ?_)⟩
      refine stranded_send rfl ?_ htimer
      rw [Simulation.unreachable_ring, hreach]
    | aborted abort hstranded => exact ⟨[.poll], aborted_singleton ⟨simulation, hp, hstranded⟩⟩
  | cons first rest ih =>
    have hpoll := orphanLook_simulated hp .poll
    rw [Simulation.pollOrphaned, hoverdue] at hpoll
    let after : Scene :=
      { s with probe := { s.probe with backend := .simulated { simulation with overdue := rest } } }
    have hafter : after.probe.backend = .simulated { simulation with overdue := rest } := rfl
    obtain ⟨orphaned, haborted⟩ := ih hafter hreach rfl
    exact ⟨.poll :: orphaned, aborted_cons hpoll haborted⟩

end Scene

/-! ## What every step keeps -/

section

variable (Good : Probe → Prop)
  (harrive : ∀ p arrivals, Good p → Good (p.arrive arrivals))
  (hpoll : ∀ p now steps, Good p → Good (p.pollWithin now steps).2.2.1)
  (hsend : ∀ p time now ping host, Good p → Good (p.sendAt time now ping host).1.2.1)

include hpoll

theorem Idle.keeps {start time : Nat} {p q : Probe} (h : Idle start p time q) (hp : Good p) :
    Good q := by
  induction h with
  | refl => exact hp
  | later _ _ ih => exact ih hp
  | @poll time steps left p q r events _ hanswer ih =>
    have hafter := hpoll q time steps (ih hp)
    rwa [hanswer] at hafter

/-- What polls keep, waits keep. -/
theorem keeps_next {p : Probe} (hp : Good p) {now last : Nat} (hle : now ≤ last) :
    Good (p.next now last).2.1 := by
  cases hnext : p.next now last with
  | mk reply rest =>
    obtain ⟨q, events⟩ := rest
    cases reply with
    | none =>
      obtain ⟨r, left, further, hidle, hlast⟩ := idle_of_next_none hle hnext
      exact (hidle.poll hlast).keeps Good hpoll hp
    | some found =>
      obtain ⟨-, r, steps, left, further, hidle, hlast⟩ := idle_of_next_some hle hnext
      have hafter := hpoll r found.1 steps (hidle.keeps Good hpoll hp)
      rwa [hlast] at hafter

include harrive hsend

theorem Scene.keeps_moment {s : Scene} (hs : Good s.probe) (step : Step) :
    Good (s.moment step).after.probe := by
  cases step with
  | send now ping => exact hsend s.probe s.time now ping s.host hs
  | advance duration => exact hs
  | arrive arrivals => exact harrive s.probe arrivals hs
  | poll => exact hpoll s.probe s.time EventLoop.stepsPerTurn hs
  | wait duration => exact keeps_next Good hpoll hs (Nat.le_add_right ..)

theorem Scene.keeps_run {s : Scene} (hs : Good s.probe) (steps : List Step) :
    Good (s.run steps).probe := by
  induction steps generalizing s with
  | nil => exact hs
  | cons step steps ih => exact ih (keeps_moment Good harrive hpoll hsend hs step)

end

/-! ## Probes that need no timer -/

/-- What a probe works on that never needs a timer: nothing but a simulation that answers requests
does. -/
inductive Untimed (c : ProbeConfig) : Backend → Prop
  | socket (socket : Descriptor) (inbox : Inbox) : Untimed c (.socket socket inbox)
  | failed : Untimed c .failed
  | silent : (∀ address, c.unreachable.contains address = true) →
    Untimed c (.simulated (.ofConfig c))

namespace Untimed

variable {c : ProbeConfig} {p : Probe}

theorem arrive (h : Untimed c p.backend) (arrivals : List Arrival) :
    Untimed c (p.arrive arrivals).backend := by
  obtain ⟨identifier, nextSequence, backend⟩ := p
  cases h with
  | socket socket inbox => exact .socket ..
  | failed => exact .failed
  | silent hsilent => exact .silent hsilent

/-- A simulation in which nothing has been promised is not changed by polls. -/
theorem poll_ofConfig (c : ProbeConfig) (now steps : Nat) :
    (Simulation.ofConfig c).poll now steps = (none, steps, .ofConfig c) := by
  cases steps with
  | zero => rfl
  | succ steps => rfl

theorem pollWithin (h : Untimed c p.backend) (now steps : Nat) :
    Untimed c (p.pollWithin now steps).2.2.1.backend := by
  obtain ⟨identifier, nextSequence, backend⟩ := p
  cases h with
  | socket socket inbox => exact .socket ..
  | failed => exact .failed
  | silent hsilent =>
    simp only [Probe.pollWithin, poll_ofConfig]
    exact .silent hsilent

theorem sendAt (h : Untimed c p.backend) (time : Nat) (now : Echo.Instant) (ping : Ping)
    (host : Host) : Untimed c (p.sendAt time now ping host).1.2.1.backend := by
  obtain ⟨identifier, nextSequence, backend⟩ := p
  cases h with
  | socket socket inbox =>
    rcases Nat.lt_or_ge Echo.maxPayload ping.payloadSize.toNat with hlarge | hsmall
    · rw [sendAt_of_lt (by simp [state]) hlarge]
      exact .socket ..
    · rw [sendAt_socket rfl hsmall]
      exact .socket ..
  | failed =>
    rw [sendAt_failed rfl]
    exact .failed
  | silent hsilent =>
    rcases Nat.lt_or_ge Echo.maxPayload ping.payloadSize.toNat with hlarge | hsmall
    · rw [sendAt_of_lt (by simp [state]) hlarge]
      exact .silent hsilent
    · rw [sendAt_simulated rfl hsmall, Simulation.schedule_of_contains (hsilent ping.address)]
      exact .silent hsilent

theorem needsTimer (h : Untimed c p.backend) (ping : Ping) : p.needsTimer ping = false := by
  obtain ⟨identifier, nextSequence, backend⟩ := p
  cases h with
  | socket socket inbox => rfl
  | failed => rfl
  | silent hsilent =>
    have hunreachable : (Simulation.ofConfig c).unreachable.contains ping.address = true :=
      hsilent ping.address
    simp [Probe.needsTimer, Simulation.needsTimer, hunreachable]

theorem run {s : Scene} (h : Untimed c s.probe.backend) (steps : List Step) :
    Untimed c (s.run steps).probe.backend :=
  Scene.keeps_run (fun p => Untimed c p.backend) (fun _ arrivals hp => hp.arrive arrivals)
    (fun _ now steps hp => hp.pollWithin now steps)
    (fun _ time now ping host hp => hp.sendAt time now ping host) h steps

end Untimed

theorem untimed_opened {c : ProbeConfig}
    (h : c.simulate = true → ∀ address, c.unreachable.contains address = true) (start : Nat)
    (identifier : UInt16) (host : Host) :
    Untimed c (Scene.opened start c identifier host).probe.backend := by
  have hopened : Scene.opened start c identifier host =
    Scene.openedUnder { running := true, now := start } c identifier host := rfl
  rw [hopened]
  cases hsimulate : c.simulate with
  | true =>
    rw [openedUnder_simulated rfl hsimulate]
    exact .silent (h hsimulate)
  | false =>
    cases hsocket : openSocket host with
    | mk result after =>
      rw [openedUnder_socket rfl hsimulate hsocket]
      cases result with
      | ok socket => exact .socket ..
      | error cause => exact .failed

/-- Nothing comes of a step that the event loop would be needed for: no reply is yielded, and a send
is what it is with the event loop. -/
structure Degraded (m : Moment) : Prop where
  reply : m.outcome.reply? = none
  sent : ∀ now ping, m.step = .send now ping → m = m.before.moment m.step

namespace Scene

variable {c : ProbeConfig} {s : Scene}

theorem degraded_orphanLook (h : Untimed c s.probe.backend) {step : Step}
    (hstep : ∀ now ping, step ≠ .send now ping) :
    ∃ m, s.orphanLook step = .ok m ∧ Degraded m ∧ Untimed c m.after.probe.backend := by
  obtain ⟨time, host, identifier, nextSequence, backend⟩ := s
  cases h with
  | socket socket inbox =>
    exact ⟨_, rfl, ⟨rfl, fun now ping h => absurd h (hstep now ping)⟩, .socket ..⟩
  | failed => exact ⟨_, rfl, ⟨rfl, fun now ping h => absurd h (hstep now ping)⟩, .failed⟩
  | silent hsilent =>
    have hlook := orphanLook_simulated
      (s := ⟨time, host, ⟨identifier, nextSequence, .simulated (.ofConfig c)⟩⟩) rfl step
    exact ⟨_, hlook, ⟨rfl, fun now ping h => absurd h (hstep now ping)⟩, .silent hsilent⟩

theorem degraded_orphanMoment (h : Untimed c s.probe.backend) (step : Step) :
    ∃ m, s.orphanMoment step = .ok m ∧ Degraded m ∧ Untimed c m.after.probe.backend := by
  cases step with
  | send now ping =>
    refine ⟨s.moment (.send now ping), ?_, ⟨rfl, fun _ _ _ => rfl⟩, h.sendAt ..⟩
    rw [orphanMoment, send_of_not_needsTimer (h.needsTimer ping)]
    rfl
  | advance duration => exact ⟨_, rfl, ⟨rfl, by rintro _ _ ⟨⟩⟩, h⟩
  | arrive arrivals => exact ⟨_, rfl, ⟨rfl, by rintro _ _ ⟨⟩⟩, h.arrive arrivals⟩
  | poll => exact degraded_orphanLook h (by rintro _ _ ⟨⟩)
  | wait duration => exact degraded_orphanLook h (by rintro _ _ ⟨⟩)

/-- Without a need for timers no run is aborted. -/
theorem degraded_orphanTrace (h : Untimed c s.probe.backend) (orphaned : List Step) :
    (s.orphanTrace orphaned).length = orphaned.length ∧ ∀ m ∈ s.orphanTrace orphaned, Degraded m := by
  induction orphaned generalizing s with
  | nil => exact ⟨rfl, List.forall_mem_nil _⟩
  | cons step orphaned ih =>
    obtain ⟨m, hm, hdegraded, hafter⟩ := degraded_orphanMoment h step
    obtain ⟨hlength, hlater⟩ := ih hafter
    rw [orphanTrace, hm]
    exact ⟨congrArg (· + 1) hlength, List.forall_mem_cons.mpr ⟨hdegraded, hlater⟩⟩

end Scene

/-! ## Lives of opened probes -/

/-- Whatever has been done to a probe while its event loop was running, and at whatever time the loop
is gone. A run after it is aborted only by a step that needs a timer. That no run is aborted holds
exactly of the probes over a socket, or without one, and of the simulations that answer no request.
Of these every send is what it is with the event loop, and every look for a reply is in vain. -/
theorem orphaned_run (start : Nat) (c : ProbeConfig) (identifier : UInt16) (host : Host)
    (steps : List Step) (clock : Nat) :
    let s := Scene.opened start c identifier host
    let t : Scene := { s.run steps with time := clock }
    (∀ orphaned, (s.trace steps ++ t.orphanTrace orphaned).length = (steps ++ orphaned).length ↔
      ∀ front step back, orphaned = front ++ step :: back →
        ¬ (t.behind (t.orphanTrace front)).probe.Stranded step) ∧
    ((∀ orphaned, (t.orphanTrace orphaned).length = orphaned.length) ↔
      (c.simulate = true → ∀ address, c.unreachable.contains address = true)) ∧
    ((c.simulate = true → ∀ address, c.unreachable.contains address = true) →
      ∀ orphaned, ∀ m ∈ t.orphanTrace orphaned, Degraded m) := by
  intro s t
  have huntimed (h : c.simulate = true → ∀ address, c.unreachable.contains address = true) :
      Untimed c t.probe.backend := (untimed_opened h start identifier host).run steps
  refine ⟨?_, ⟨?_, ?_⟩, ?_⟩
  · intro orphaned
    rw [List.length_append, List.length_append, Scene.length_trace, Nat.add_left_cancel_iff]
    exact t.length_orphanTrace_iff orphaned
  · intro hall hsimulate address
    have hfaithful := faithful_opened c start identifier host
    have hc : { c with simulate := true } = c := by rw [← hsimulate]
    rw [hc] at hfaithful
    obtain ⟨kept, owed, hrun, -⟩ := hfaithful.trace steps
    obtain ⟨simulation, hp, hsettings, -, -⟩ := hrun.simulates
    by_contra hreach
    have hsimulation : simulation.unreachable.contains address = false := by
      rw [hsettings.2]
      exact Bool.eq_false_iff.mpr hreach
    obtain ⟨orphaned, haborted⟩ := Scene.exists_aborted (s := t) hp hsimulation
    exact haborted (hall orphaned)
  · exact fun h orphaned => (Scene.degraded_orphanTrace (huntimed h) orphaned).1
  · exact fun h orphaned => (Scene.degraded_orphanTrace (huntimed h) orphaned).2

/-- A simulated probe is aborted by the first request after its event loop is gone. And where a poll
in front of that is in vain, for the reply is due in 30 milliseconds, the same poll after it yields
the reply at once. -/
theorem orphaned_simulation_aborted :
    let s := Scene.opened 0 .simulated 0x1234 { script := ({} : Refusals).script 5 }
    let ping : Ping := ⟨⟨203, 0, 113, 10⟩, 0, true⟩
    let asked := s.run [.send .epoch ping, .poll]
    s.orphanMoment (.send .epoch ping) = .error .timerSet ∧
      (asked.moment .poll).outcome = .pending ∧
      (asked.orphanTrace [.poll]).map (fun m => (m.time, m.outcome)) =
        [(0, .yielded ⟨203, 0, 113, 10⟩)] := by
  intro s ping asked
  have htimer : s.probe.needsTimer ping = true := by decide
  refine ⟨?_, by decide +kernel, by decide +kernel⟩
  rw [Scene.orphanMoment, Scene.send_of_needsTimer htimer]

end Probe

end PingTun
