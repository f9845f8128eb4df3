-- SUMMARY: Simulated replies stand in for those of a network that answers every request faithfully.
import PingTun.Proofs.Probe.Exchange
import PingTun.Proofs.Probe.Simulated

/-! # Standing in

A simulated probe and one over a socket, on whose requests a network answers faithfully, go through
the same actions. They accept the same pings under the same sequence numbers, and so they make the
same promises. The replies of both keep those promises that are due, once both have been polled in
vain.
-/

namespace PingTun.Probe

/-! ## Side by side -/

/-- A simulated probe and one over a socket at the same point. -/
structure Twins (identifier : UInt16) (socket : Descriptor) (s : Scene) (x : Exchange) :
    Prop where
  time : s.time = x.scene.time
  nextSequence : s.probe.nextSequence = x.scene.probe.nextSequence
  simulated : ∃ simulation, s.probe.backend = .simulated simulation
  listens : ∃ inbox, Listens identifier socket inbox x.scene.probe
  accepts : Accepts x.scene.host

namespace Twins

variable (c : ProbeConfig) (envelopes : Envelopes) {identifier : UInt16} {socket : Descriptor}
  {s : Scene} {x : Exchange}

/-- What arrives behind an action makes no difference. -/
theorem act {m : Moment} {action : Action} (hm : x.moment action = m)
    (htime : s.time = m.after.time) (hsequence : s.probe.nextSequence = m.after.probe.nextSequence)
    (hsimulated : ∃ simulation, s.probe.backend = .simulated simulation)
    (hlistens : ∃ inbox, Listens identifier socket inbox m.after.probe)
    (haccepts : Accepts m.after.host) :
    Twins identifier socket s (x.act c envelopes action) := by
  subst hm
  obtain ⟨inbox, hlistens⟩ := hlistens
  refine ⟨htime, hsequence.trans ?_, hsimulated, ⟨_, hlistens.arrive _⟩, haccepts⟩
  simp only [Exchange.act, Exchange.deliver, Scene.moment, Probe.arrive, hlistens.backend_eq]

theorem send (h : Twins identifier socket s x) (now : Echo.Instant) (ping : Ping) :
    Twins identifier socket (s.moment (.send now ping)).after
        (x.act c envelopes (.send now ping)) ∧
      (s.moment (.send now ping)).outcome.accepted? =
        (x.moment (.send now ping)).outcome.accepted? := by
  obtain ⟨simulation, hsimulated⟩ := h.simulated
  obtain ⟨inbox, hlistens⟩ := h.listens
  rcases Nat.lt_or_ge Echo.maxPayload ping.payloadSize.toNat with hlarge | hsmall
  · have hstate : s.probe.state ≠ .socketFailed := by simp [state, hsimulated]
    have hs : s.moment (.send now ping) = _ := Scene.moment_send (sendAt_of_lt hstate hlarge)
    have hx : x.moment (.send now ping) = _ :=
      Scene.moment_send (sendAt_of_lt hlistens.state_ne hlarge)
    rw [hs, hx]
    exact ⟨act c envelopes hx h.time h.nextSequence ⟨simulation, hsimulated⟩ ⟨inbox, hlistens⟩
      h.accepts, rfl⟩
  · obtain ⟨hok, haccepts, -⟩ :=
      transmit_of_accepts h.accepts socket (x.scene.probe.packet now ping) ping
    have hs : s.moment (.send now ping) = _ :=
      Scene.moment_send (sendAt_simulated hsimulated hsmall)
    have hx : x.moment (.send now ping) = _ :=
      Scene.moment_send (sendAt_socket hlistens.backend_eq hsmall)
    have hsequence : s.probe.nextSequence + 1 = x.scene.probe.nextSequence + 1 :=
      congrArg (· + 1) h.nextSequence
    have hafter : Listens identifier socket inbox
        { x.scene.probe with nextSequence := x.scene.probe.nextSequence + 1 } :=
      ⟨hlistens.identifier_eq, hlistens.backend_eq⟩
    rw [hs, hx]
    refine ⟨act c envelopes hx h.time hsequence ⟨_, rfl⟩ ⟨inbox, hafter⟩ haccepts, ?_⟩
    rw [hok]
    rfl

theorem advance (h : Twins identifier socket s x) (n : Nat) :
    Twins identifier socket (s.moment (.advance (Clock.ofMilliseconds n))).after
        (x.act c envelopes (.advance n)) ∧
      (s.moment (.advance (Clock.ofMilliseconds n))).outcome.accepted? =
        (x.moment (.advance n)).outcome.accepted? := by
  obtain ⟨duration, hduration⟩ : ∃ duration, duration = Clock.ofMilliseconds n := ⟨_, rfl⟩
  have hx := x.moment_advance hduration
  rw [← hduration, Scene.moment_advance, hx]
  have htime : s.time + duration = x.scene.time + duration := congrArg (· + duration) h.time
  exact ⟨act c envelopes hx htime h.nextSequence h.simulated h.listens h.accepts, rfl⟩

theorem poll (h : Twins identifier socket s x) :
    Twins identifier socket (s.moment .poll).after (x.act c envelopes .poll) ∧
      (s.moment .poll).outcome.accepted? = (x.moment .poll).outcome.accepted? := by
  obtain ⟨simulation, hsimulated⟩ := h.simulated
  obtain ⟨inbox, hlistens⟩ := h.listens
  have hpoll : s.probe.pollWithin s.time EventLoop.stepsPerTurn =
      ((simulation.poll s.time EventLoop.stepsPerTurn).1,
        (simulation.poll s.time EventLoop.stepsPerTurn).2.1,
        { s.probe with
          backend := .simulated (simulation.poll s.time EventLoop.stepsPerTurn).2.2 }, []) := by
    simp only [pollWithin, hsimulated]
  have hs : s.moment .poll = _ := Scene.moment_poll hpoll
  have hx : x.moment .poll = _ := Scene.moment_poll (hlistens.pollWithin_eq x.scene.time _)
  rw [hs, hx]
  refine ⟨act c envelopes hx h.time h.nextSequence ⟨_, rfl⟩ ⟨_, hlistens.identifier_eq, rfl⟩
    h.accepts, ?_⟩
  rw [Outcome.accepted?_ofReply, Outcome.accepted?_ofReply]

theorem action (h : Twins identifier socket s x) (action : Action) :
    Twins identifier socket (s.moment action.step).after (x.act c envelopes action) ∧
      (s.moment action.step).outcome.accepted? = (x.moment action).outcome.accepted? := by
  cases action with
  | send now ping => exact h.send c envelopes now ping
  | advance n => exact h.advance c envelopes n
  | poll => exact h.poll c envelopes

/-- The same actions accept the same pings and make the same promises. -/
theorem trace (h : Twins identifier socket s x) (actions : List Action) :
    Twins identifier socket (s.run (actions.map Action.step)) (x.run c envelopes actions) ∧
      (s.trace (actions.map Action.step)).map (·.outcome.accepted?) =
        (x.trace c envelopes actions).map (·.outcome.accepted?) ∧
      promises c (s.trace (actions.map Action.step)) =
        promises c (x.trace c envelopes actions) := by
  induction actions generalizing s x with
  | nil => exact ⟨h, rfl, rfl⟩
  | cons action actions ih =>
    obtain ⟨hafter, haccepted⟩ := h.action c envelopes action
    obtain ⟨hrun, hanswers, hpromises⟩ := ih hafter
    have hstep : (s.moment action.step).step = (x.moment action).step := by
      rw [Scene.step_moment]
      exact (Scene.step_moment ..).symm
    have hpromise : (s.moment action.step).promise? c = (x.moment action).promise? c :=
      Moment.promise?_congr hstep hafter.time
    refine ⟨hrun, ?_, ?_⟩
    · exact congrArg₂ List.cons haccepted hanswers
    · rw [List.map_cons, Scene.trace_cons, promises_cons, hpromise, hpromises]
      exact (promises_cons ..).symm

end Twins

/-! ## Polls -/

/-- Actions, with a number of polls behind them. -/
def polled (actions : List Action) (polls : Nat) : List Action :=
  actions ++ List.replicate polls .poll

theorem map_step_polled (actions : List Action) (polls : Nat) :
    (polled actions polls).map Action.step =
      actions.map Action.step ++ List.replicate polls .poll := by
  rw [polled, List.map_append, List.map_replicate]
  rfl

section

variable {c : ProbeConfig} {identifier : UInt16} {socket : Descriptor} {s : Scene} {x : Exchange}

/-- With more polls than actions no reply is left in the simulation that is due. -/
theorem Faithful.endsPending (h : Faithful c s [] [] []) (actions : List Action) {polls : Nat}
    (hpolls : actions.length < polls) :
    EndsPending (s.trace ((polled actions polls).map Action.step)) := by
  obtain ⟨kept, owed, hlog, -⟩ := h.trace (actions.map Action.step)
  have howed : owed.length ≤ actions.length := by
    calc
      owed.length ≤ (kept ++ owed).length := by rw [List.length_append]; exact Nat.le_add_left ..
      _ = (promises c (s.trace (actions.map Action.step))).length := hlog.perm.length_eq
      _ ≤ (s.trace (actions.map Action.step)).length := length_promises_le ..
      _ = actions.length := by rw [Scene.length_trace, List.length_map]
  rw [map_step_polled, Scene.trace_append]
  exact (hlog.pending_polls (Nat.lt_of_le_of_lt howed hpolls)).append _

/-- With more polls than actions no reply is left at the socket. -/
theorem Relays.endsPending (envelopes : Envelopes) (h : Relays c identifier socket x [] [] [] [])
    (actions : List Action) {polls : Nat} (hpolls : actions.length < polls) :
    EndsPending (x.trace c envelopes (polled actions polls)) := by
  obtain ⟨served, arrived, coming, hlog, -⟩ := h.trace envelopes actions
  have harrived : arrived.length ≤ actions.length := by
    calc
      arrived.length ≤ (served ++ (arrived ++ coming)).length := by
        rw [List.length_append, List.length_append]
        omega
      _ = (promises c (x.trace c envelopes actions)).length := hlog.perm.length_eq
      _ ≤ (x.trace c envelopes actions).length := length_promises_le ..
      _ = actions.length := Exchange.length_trace ..
  rw [polled, Exchange.trace_append]
  exact (hlog.pending_polls envelopes (Nat.lt_of_le_of_lt harrived hpolls)).append _

/-- Polls behind the actions change neither the promises nor which of them are due. -/
theorem duePromises_polled (c : ProbeConfig) (s : Scene) (actions : List Action) (polls : Nat) :
    duePromises c (s.run ((polled actions polls).map Action.step)).time
        (s.trace ((polled actions polls).map Action.step)) =
      duePromises c (s.run (actions.map Action.step)).time
        (s.trace (actions.map Action.step)) := by
  rw [map_step_polled, Scene.run_append, Scene.time_polls, duePromises, Scene.trace_append,
    promises_append, promises_polls, List.append_nil]
  rfl

end

/-! ## Opening -/

/-- A system that refuses nothing gives a new probe its socket. -/
theorem opened_of_accepts {host : Host} (h : Accepts host) (time : Nat) (c : ProbeConfig)
    (identifier : UInt16) :
    ∃ socket, ∃ after, Accepts after ∧
      Scene.opened time { c with simulate := false } identifier host =
        ⟨time, after, ⟨identifier, 0, .socket socket {}⟩⟩ := by
  obtain ⟨controlId, hscript⟩ := h
  obtain ⟨script, occupied, mtus, live, next, log, transmissions⟩ := host
  cases hscript
  exact ⟨next, _, ⟨controlId, rfl⟩, rfl⟩

/-- Two probes that are opened at the same whole millisecond, the second one by such a system. -/
theorem twins_opened {time n : Nat} (htime : time = Clock.ofMilliseconds n) {host : Host}
    (h : Accepts host) (c : ProbeConfig) (identifier : UInt16) (idle : Host) :
    let s := Scene.opened time { c with simulate := true } identifier idle
    let x : Exchange := ⟨Scene.opened time { c with simulate := false } identifier host, []⟩
    ∃ socket, Twins identifier socket s x ∧ Relays c identifier socket x [] [] [] [] := by
  intro s x
  obtain ⟨socket, after, haccepts, hopened⟩ := opened_of_accepts h time c identifier
  have hx : x = ⟨⟨time, after, ⟨identifier, 0, .socket socket {}⟩⟩, []⟩ :=
    congrArg (Exchange.mk · []) hopened
  rw [hx]
  refine ⟨socket, ⟨rfl, rfl, ⟨_, rfl⟩, ⟨{}, rfl, rfl⟩, haccepts⟩, ?_⟩
  refine ⟨⟨{}, ⟨rfl, rfl⟩, ⟨?_, ?_⟩, .nil⟩, haccepts, ⟨n, htime⟩, .nil, rfl, .nil, ?_, ?_⟩
  · intro cause
    exact List.not_mem_nil
  · intro hsome
    exact absurd rfl hsome
  · intro promise hmem
    cases hmem
  · intro promise hmem
    cases hmem

/-! ## Standing in -/

/-- A simulated probe, opened at a whole millisecond. -/
def inSimulation (start : Nat) (c : ProbeConfig) (identifier : UInt16) (host : Host) : Scene :=
  Scene.opened (Clock.ofMilliseconds start) { c with simulate := true } identifier host

/-- A probe that is opened over a socket at a whole millisecond, by a system that refuses nothing
and sends every packet whole. -/
def overSocket (start : Nat) (c : ProbeConfig) (identifier : UInt16) (host : Host)
    (controlId : UInt32) : Exchange where
  scene := Scene.opened (Clock.ofMilliseconds start) { c with simulate := false } identifier
    { host with script := ({} : Refusals).script controlId }
  underway := []

/-- Whatever is done to them in whole milliseconds, a simulated probe is not to be told from one
over a socket whose requests are answered faithfully: every send has the same result, the next
sequence numbers are the same, and once both are polled until there is nothing more, which they are
with more polls than actions, they have yielded the same replies. -/
theorem simulation_stands_in (c : ProbeConfig) (start : Nat) (identifier : UInt16)
    (idle host : Host) (controlId : UInt32) (envelopes : Envelopes) (actions : List Action) :
    let s := inSimulation start c identifier idle
    let x := overSocket start c identifier host controlId
    (s.probe.state = .simulated ∧ x.scene.probe.state = .socketOpen) ∧
    (s.trace (actions.map Action.step)).map (·.outcome.accepted?) =
      (x.trace c envelopes actions).map (·.outcome.accepted?) ∧
    (s.run (actions.map Action.step)).probe.nextSequence =
      (x.run c envelopes actions).scene.probe.nextSequence ∧
    (∀ polls, actions.length < polls →
      EndsPending (s.trace ((polled actions polls).map Action.step)) ∧
        EndsPending (x.trace c envelopes (polled actions polls))) ∧
    ∀ polls others, EndsPending (s.trace ((polled actions polls).map Action.step)) →
      EndsPending (x.trace c envelopes (polled actions others)) →
        ((replies (s.trace ((polled actions polls).map Action.step))).map (·.2)).Perm
          ((replies (x.trace c envelopes (polled actions others))).map (·.2)) := by
  intro s x
  have haccepts : Accepts { host with script := ({} : Refusals).script controlId } :=
    ⟨controlId, rfl⟩
  obtain ⟨socket, htwins, hrelays⟩ := twins_opened rfl haccepts c identifier idle
  change Twins identifier socket s x at htwins
  change Relays c identifier socket x [] [] [] [] at hrelays
  have hfaithful : Faithful c s [] [] [] := faithful_opened ..
  have hactions := htwins.trace c envelopes actions
  refine ⟨⟨?_, ?_⟩, hactions.2.1, hactions.1.nextSequence, ?_, ?_⟩
  · obtain ⟨simulation, hsimulated⟩ := htwins.simulated
    rw [state, hsimulated]
  · obtain ⟨inbox, hlistens⟩ := htwins.listens
    rw [state, hlistens.backend_eq]
  · intro polls hpolls
    exact ⟨hfaithful.endsPending actions hpolls, hrelays.endsPending envelopes actions hpolls⟩
  · intro polls others hpending hpending'
    obtain ⟨hrun, -, hpromises⟩ := htwins.trace c envelopes (polled actions others)
    have hdue : duePromises c (s.run ((polled actions polls).map Action.step)).time
        (s.trace ((polled actions polls).map Action.step)) =
          duePromises c (x.run c envelopes (polled actions others)).scene.time
            (x.trace c envelopes (polled actions others)) := by
      rw [duePromises_polled, ← duePromises_polled c s actions others, hrun.time, duePromises,
        hpromises]
      rfl
    have hreplies := hfaithful.perm_replies hpending
    rw [hdue] at hreplies
    exact hreplies.trans (hrelays.perm_replies envelopes hpending').symm

end PingTun.Probe
