-- SUMMARY: What a probe over a socket yields in a trace: the replies among what it has read, in order.
import PingTun.Proofs.Probe.Reading

/-! # Listening

Every step of a probe over a socket reads some of what has arrived, most of them nothing. What has
been read by all steps together is a beginning of what has arrived, and the probe has yielded the
replies among it. Two probes that differ in their receive buffers only go through the same trace.
-/

namespace PingTun.Probe

/-- What has arrived at a probe's socket, and was not read yet. -/
def waiting (p : Probe) : List Arrival :=
  match p.backend with
  | .socket _ inbox => inbox.waiting
  | _ => []

/-- What was read in a step: everything up to the reply that is yielded, of what was there. -/
def Moment.Reads (identifier : UInt16) (m : Moment) (read : List Arrival) : Prop :=
  Inbox.Reads identifier (m.before.probe.waiting ++ m.step.arrivals) m.outcome.reply?
    m.after.probe.waiting read

/-- A probe with an identifier, over a socket with an inbox. -/
structure Listens (identifier : UInt16) (socket : Descriptor) (inbox : Inbox) (p : Probe) :
    Prop where
  identifier_eq : p.identifier = identifier
  backend_eq : p.backend = .socket socket inbox

namespace Listens

variable {identifier : UInt16} {socket : Descriptor} {i : Inbox} {p q : Probe}
  {now steps left time : Nat} {reply : Option Address} {events : List Event}

theorem waiting_eq (h : Listens identifier socket i p) : p.waiting = i.waiting := by
  rw [waiting, h.backend_eq]

theorem state_ne (h : Listens identifier socket i p) : p.state ≠ .socketFailed := by
  simp [state, h.backend_eq]

theorem arrive (h : Listens identifier socket i p) (arrivals : List Arrival) :
    Listens identifier socket (i.arrive arrivals) (p.arrive arrivals) := by
  simp only [Probe.arrive, h.backend_eq]
  exact ⟨h.identifier_eq, rfl⟩

/-- Polls change the inbox only. -/
theorem pollWithin_eq (h : Listens identifier socket i p) (now steps : Nat) :
    p.pollWithin now steps =
      ((i.poll identifier steps).1, (i.poll identifier steps).2.1,
        { p with backend := .socket socket (i.poll identifier steps).2.2.1 },
        (i.poll identifier steps).2.2.2) := by
  simp only [pollWithin, h.backend_eq, h.identifier_eq]

theorem poll (h : Listens identifier socket i p)
    (hpoll : p.pollWithin now steps = (reply, left, q, events)) :
    ∃ j, Listens identifier socket j q ∧ Inbox.Polled identifier i reply j := by
  rw [h.pollWithin_eq] at hpoll
  cases hpoll
  exact ⟨_, ⟨h.identifier_eq, rfl⟩, .poll steps .refl rfl rfl⟩

/-- Whoever waits only polls in vain. -/
theorem idle (h : Listens identifier socket i p) (hidle : Idle now p time q) :
    ∃ j, Listens identifier socket j q ∧ Inbox.Polled identifier i none j := by
  induction hidle with
  | refl => exact ⟨i, h, .refl⟩
  | later _ _ ih => exact ih h
  | poll _ hpoll ih =>
    obtain ⟨j, hlistens, hpolled⟩ := ih h
    obtain ⟨k, hafter, hlater⟩ := hlistens.poll hpoll
    exact ⟨k, hafter, hpolled.trans hlater⟩

/-- A poll behind polls in vain. -/
theorem poll_of_idle {r : Probe} (h : Listens identifier socket i p) (hidle : Idle now p time q)
    (hpoll : q.pollWithin time steps = (reply, left, r, events)) :
    ∃ j, Listens identifier socket j r ∧ Inbox.Polled identifier i reply j := by
  obtain ⟨j, hlistens, hpolled⟩ := h.idle hidle
  obtain ⟨k, hafter, hlater⟩ := hlistens.poll hpoll
  exact ⟨k, hafter, hpolled.trans hlater⟩

/-- A send changes the next sequence number at most. -/
theorem send {host after : Host} {instant : Echo.Instant} {ping : Ping} {accepted : Bool}
    (h : Listens identifier socket i p)
    (hsend : p.sendAt time instant ping host = ((accepted, q, events), after)) :
    Listens identifier socket i q := by
  rcases Nat.lt_or_ge Echo.maxPayload ping.payloadSize.toNat with hlarge | hsmall
  · rw [sendAt_of_lt h.state_ne hlarge] at hsend
    cases hsend
    exact h
  · rw [sendAt_socket h.backend_eq hsmall] at hsend
    cases hsend
    exact ⟨h.identifier_eq, h.backend_eq⟩

/-- In every step something arrives, or the socket is polled, or neither. -/
theorem polled {s : Scene} (h : Listens identifier socket i s.probe) (step : Step) :
    ∃ j, Listens identifier socket j (s.moment step).after.probe ∧
      Inbox.Polled identifier (i.arrive step.arrivals) (s.moment step).outcome.reply? j := by
  cases step with
  | send now ping =>
    cases hsend : s.probe.sendAt s.time now ping s.host with
    | mk answer host =>
      obtain ⟨accepted, q, events⟩ := answer
      simp only [Scene.moment_send hsend, Step.arrivals, Inbox.arrive_nil]
      exact ⟨i, h.send hsend, .refl⟩
  | advance duration =>
    simp only [Step.arrivals, Inbox.arrive_nil]
    exact ⟨i, h, .refl⟩
  | arrive arrivals => exact ⟨i.arrive arrivals, h.arrive arrivals, .refl⟩
  | poll =>
    cases hpoll : s.probe.pollWithin s.time EventLoop.stepsPerTurn with
    | mk reply rest =>
      obtain ⟨left, q, events⟩ := rest
      simp only [Scene.moment_poll hpoll, Step.arrivals, Inbox.arrive_nil, Outcome.reply?_ofReply]
      exact h.poll hpoll
  | wait duration =>
    have hle : s.time ≤ s.time + duration := Nat.le_add_right ..
    cases hnext : s.probe.next s.time (s.time + duration) with
    | mk reply rest =>
      obtain ⟨q, events⟩ := rest
      cases reply with
      | none =>
        obtain ⟨r, left, further, hidle, hpoll⟩ := idle_of_next_none hle hnext
        simp only [Scene.moment_wait_none hnext, Step.arrivals, Inbox.arrive_nil]
        exact h.poll_of_idle hidle hpoll
      | some found =>
        obtain ⟨time, address⟩ := found
        obtain ⟨-, r, steps, left, further, hidle, hpoll⟩ := idle_of_next_some hle hnext
        simp only [Scene.moment_wait_some hnext, Step.arrivals, Inbox.arrive_nil]
        exact h.poll_of_idle hidle hpoll

/-- Every step reads some of what has arrived. -/
theorem moment {s : Scene} (h : Listens identifier socket i s.probe) (step : Step) :
    ∃ j, Listens identifier socket j (s.moment step).after.probe ∧
      Inbox.Serves identifier (i.arrive step.arrivals) (s.moment step).outcome.reply? j := by
  obtain ⟨j, hlistens, hpolled⟩ := h.polled step
  exact ⟨j, hlistens, hpolled.serves⟩

/-- Everything that has arrived is read once, in order, or is still waiting. -/
theorem trace {s : Scene} (h : Listens identifier socket i s.probe) (steps : List Step) :
    ∃ j, Listens identifier socket j (s.run steps).probe ∧
      ∃ reads : List (List Arrival),
        List.Forall₂ (Moment.Reads identifier) (s.trace steps) reads ∧
        i.waiting ++ steps.flatMap Step.arrivals = reads.flatten ++ j.waiting := by
  induction steps generalizing i s with
  | nil => exact ⟨i, h, [], .nil, List.append_nil _⟩
  | cons step steps ih =>
    obtain ⟨k, hlistens, hserves⟩ := h.moment step
    obtain ⟨read, hread⟩ := hserves.reads
    obtain ⟨j, hrun, reads, hreads, hsplit⟩ := ih hlistens
    refine ⟨j, hrun, read :: reads, .cons ?_ hreads, ?_⟩
    · rw [Moment.Reads, hlistens.waiting_eq, Scene.before_moment, Scene.step_moment, h.waiting_eq]
      exact hread
    · calc
        i.waiting ++ (step :: steps).flatMap Step.arrivals
          = i.waiting ++ step.arrivals ++ steps.flatMap Step.arrivals := by
          rw [List.flatMap_cons, List.append_assoc]
        _ = read ++ k.waiting ++ steps.flatMap Step.arrivals :=
          congrArg (· ++ steps.flatMap Step.arrivals) hread.split
        _ = (read :: reads).flatten ++ j.waiting := by
          rw [List.append_assoc, hsplit, List.flatten_cons, List.append_assoc]

/-- In front of every step of a trace the probe still listens at its socket. -/
theorem of_mem_trace {s : Scene} (h : Listens identifier socket i s.probe) {steps : List Step}
    {m : Moment} (hm : m ∈ s.trace steps) :
    ∃ j, Listens identifier socket j m.before.probe ∧ m = m.before.moment m.step := by
  have hstep (t : Scene) (step : Step) (ht : ∃ j, Listens identifier socket j t.probe) :
      ∃ j, Listens identifier socket j (t.moment step).after.probe := by
    obtain ⟨j, hlistens⟩ := ht
    obtain ⟨k, hafter, -⟩ := hlistens.moment step
    exact ⟨k, hafter⟩
  obtain ⟨⟨j, hbefore⟩, hmoment⟩ := Scene.holds_of_mem_trace hstep ⟨i, h⟩ hm
  exact ⟨j, hbefore, hmoment⟩

/-- As long as no read fails, nothing is left at a socket that is not ready. -/
theorem intact {s : Scene} (h : Listens identifier socket i s.probe) (hintact : i.Intact)
    {steps : List Step} (hreadable : ∀ cause, .failure cause ∉ steps.flatMap Step.arrivals) :
    ∃ j, Listens identifier socket j (s.run steps).probe ∧ j.Intact := by
  induction steps generalizing i s with
  | nil => exact ⟨i, h, hintact⟩
  | cons step steps ih =>
    rw [List.flatMap_cons] at hreadable
    obtain ⟨k, hlistens, hserves⟩ := h.moment step
    refine ih hlistens (hserves.intact (hintact.arrive ?_)) ?_
    · exact fun cause hmem => hreadable cause (List.mem_append_left _ hmem)
    · exact fun cause hmem => hreadable cause (List.mem_append_right _ hmem)

/-- As long as no read fails, as many polls read everything as there is to read. -/
theorem polls {s : Scene} (h : Listens identifier socket i s.probe) (hintact : i.Intact)
    {polls : Nat} (hpolls : i.waiting.length ≤ polls) :
    (s.run (List.replicate polls .poll)).probe.waiting = [] := by
  induction polls generalizing i s with
  | zero =>
    rw [List.replicate_zero, Scene.run_nil, h.waiting_eq]
    exact List.length_eq_zero_iff.mp (Nat.le_zero.mp hpolls)
  | succ polls ih =>
    have hturn : 0 < EventLoop.stepsPerTurn := by decide
    have hlength := hintact.length_poll identifier hturn
    have hintact' := hintact.poll identifier EventLoop.stepsPerTurn
    rw [List.replicate_succ, Scene.run_cons, Scene.moment_poll (h.pollWithin_eq s.time _)]
    exact ih ⟨h.identifier_eq, rfl⟩ hintact'
      (Nat.le_trans hlength (Nat.sub_le_of_le_add hpolls))

/-- With more steps than arrivals a poll comes to its end by itself. -/
theorem pollWithin_steps {fewer more : Nat} (h : Listens identifier socket i p) (now : Nat)
    (hfewer : p.waiting.length < fewer) (hmore : p.waiting.length < more) :
    (p.pollWithin now fewer).1 = (p.pollWithin now more).1 ∧
      (p.pollWithin now fewer).2.2 = (p.pollWithin now more).2.2 := by
  rw [h.waiting_eq] at hfewer hmore
  obtain ⟨hreply, hrest⟩ := i.poll_steps identifier hfewer hmore
  rw [h.pollWithin_eq, h.pollWithin_eq]
  exact ⟨hreply, by simp only [hrest]⟩

end Listens

/-- What was read in the steps of a trace has the replies that they yielded, and no others. -/
theorem filterMap_flatten_reads {identifier : UInt16} {log : List Moment}
    {reads : List (List Arrival)} (h : List.Forall₂ (Moment.Reads identifier) log reads) :
    log.filterMap (·.outcome.reply?) = reads.flatten.filterMap (·.reply? identifier) := by
  induction h with
  | nil => rfl
  | @cons m read log reads hread _ ih =>
    rw [List.flatten_cons, List.filterMap_append, ← ih, Inbox.Reads.filterMap hread]
    cases hreply : m.outcome.reply? with
    | none => simp [hreply]
    | some address => simp [hreply]

/-! ## Receive buffers -/

/-- Two probes that differ at most in what is left in their receive buffers. -/
inductive Alike : Probe → Probe → Prop
  | intro {identifier nextSequence : UInt16} {socket : Descriptor} {i j : Inbox} :
    i.Alike j →
      Alike ⟨identifier, nextSequence, .socket socket i⟩
        ⟨identifier, nextSequence, .socket socket j⟩

namespace Alike

variable {p q : Probe}

theorem arrive (h : Alike p q) (arrivals : List Arrival) :
    Alike (p.arrive arrivals) (q.arrive arrivals) := by
  cases h with
  | intro hinbox => exact .intro (hinbox.arrive arrivals)

theorem pollWithin (h : Alike p q) (now steps : Nat) :
    (p.pollWithin now steps).1 = (q.pollWithin now steps).1 ∧
      Alike (p.pollWithin now steps).2.2.1 (q.pollWithin now steps).2.2.1 ∧
      (p.pollWithin now steps).2.2.2 = (q.pollWithin now steps).2.2.2 := by
  cases h with
  | @intro identifier nextSequence socket i j hinbox =>
    obtain ⟨hreply, -, hafter, hevents⟩ := hinbox.poll identifier steps
    exact ⟨hreply, .intro hafter, hevents⟩

theorem wakeTime? (h : Alike p q) : p.wakeTime? = none ∧ q.wakeTime? = none := by
  cases h with
  | intro _ => exact ⟨rfl, rfl⟩

theorem enoughSteps (h : Alike p q) : p.enoughSteps = q.enoughSteps := by
  cases h with
  | intro hinbox => simp [Probe.enoughSteps, unread, hinbox.waiting]

theorem nextBefore (h : Alike p q) (steps now last : Nat) :
    (p.nextBefore steps now last).1 = (q.nextBefore steps now last).1 ∧
      Alike (p.nextBefore steps now last).2.1 (q.nextBefore steps now last).2.1 ∧
      (p.nextBefore steps now last).2.2 = (q.nextBefore steps now last).2.2 := by
  obtain ⟨hreply, hafter, hevents⟩ := h.pollWithin now steps
  rw [Probe.nextBefore, Probe.nextBefore]
  cases hp : p.pollWithin now steps with
  | mk reply rest =>
    obtain ⟨left, p', events⟩ := rest
    cases hq : q.pollWithin now steps with
    | mk reply' rest' =>
      obtain ⟨left', q', events'⟩ := rest'
      rw [hp, hq] at hreply hafter hevents
      cases hreply
      cases hevents
      obtain ⟨hwake, hwake'⟩ := hafter.wakeTime?
      by_cases hlt : now < last
      · simp only [hlt, ↓reduceDIte]
        cases reply with
        | some address => exact ⟨rfl, hafter, rfl⟩
        | none =>
          simp only at hwake hwake'
          simp only [hwake, hwake']
          exact ⟨trivial, hafter, trivial⟩
      · simp only [hlt, ↓reduceDIte]
        exact ⟨trivial, h, trivial⟩

theorem next (h : Alike p q) (now last : Nat) :
    (p.next now last).1 = (q.next now last).1 ∧
      Alike (p.next now last).2.1 (q.next now last).2.1 ∧
      (p.next now last).2.2 = (q.next now last).2.2 := by
  obtain ⟨hreply, hafter, hevents⟩ := h.nextBefore p.enoughSteps now last
  unfold Probe.next nextWithin
  rw [← h.enoughSteps]
  cases hp : p.nextBefore p.enoughSteps now last with
  | mk reply rest =>
    obtain ⟨p', events⟩ := rest
    cases hq : q.nextBefore p.enoughSteps now last with
    | mk reply' rest' =>
      obtain ⟨q', events'⟩ := rest'
      rw [hp, hq] at hreply hafter hevents
      cases hreply
      cases hevents
      cases reply with
      | some found => exact ⟨rfl, hafter, rfl⟩
      | none =>
        obtain ⟨hlast, hend, hlater⟩ := hafter.pollWithin last (stepsLeft 0)
        exact ⟨congrArg (Option.map (last, ·)) hlast, hend, congrArg (events ++ ·) hlater⟩

/-- Sends are the same. -/
theorem sendAt (h : Alike p q) (time : Nat) (now : Echo.Instant) (ping : Ping) (host : Host) :
    (p.sendAt time now ping host).1.1 = (q.sendAt time now ping host).1.1 ∧
      Alike (p.sendAt time now ping host).1.2.1 (q.sendAt time now ping host).1.2.1 ∧
      (p.sendAt time now ping host).1.2.2 = (q.sendAt time now ping host).1.2.2 ∧
      (p.sendAt time now ping host).2 = (q.sendAt time now ping host).2 := by
  cases h with
  | intro hinbox =>
    rcases Nat.lt_or_ge Echo.maxPayload ping.payloadSize.toNat with hlarge | hsmall
    · rw [sendAt_of_lt (by simp [state]) hlarge, sendAt_of_lt (by simp [state]) hlarge]
      exact ⟨rfl, .intro hinbox, rfl, rfl⟩
    · rw [sendAt_socket rfl hsmall, sendAt_socket rfl hsmall]
      exact ⟨rfl, .intro hinbox, rfl, rfl⟩

end Alike

/-- Two scenes that differ at most in what is left in the receive buffer. -/
structure Scene.Alike (s t : Scene) : Prop where
  time : s.time = t.time
  host : s.host = t.host
  probe : Probe.Alike s.probe t.probe

namespace Scene.Alike

variable {s t : Scene}

/-- What can be seen of a step is the same. -/
theorem moment (h : s.Alike t) (step : Step) :
    (s.moment step).outcome = (t.moment step).outcome ∧
      (s.moment step).events = (t.moment step).events ∧
      (s.moment step).after.Alike (t.moment step).after := by
  obtain ⟨time, host, p⟩ := s
  obtain ⟨_, _, q⟩ := t
  obtain ⟨rfl, rfl, h⟩ := h
  cases step with
  | send now ping =>
    obtain ⟨haccepted, hafter, hevents, hhost⟩ := h.sendAt time now ping host
    exact ⟨congrArg Outcome.sent haccepted, hevents, rfl, hhost, hafter⟩
  | advance duration => exact ⟨rfl, rfl, rfl, rfl, h⟩
  | arrive arrivals => exact ⟨rfl, rfl, rfl, rfl, h.arrive arrivals⟩
  | poll =>
    obtain ⟨hreply, hafter, hevents⟩ := h.pollWithin time EventLoop.stepsPerTurn
    exact ⟨congrArg Outcome.ofReply hreply, hevents, rfl, rfl, hafter⟩
  | wait duration =>
    obtain ⟨hreply, hafter, hevents⟩ := h.next time (time + duration)
    refine ⟨?_, hevents, ?_, rfl, hafter⟩
    · exact congrArg (fun reply => Outcome.ofReply (reply.map (·.2))) hreply
    · exact congrArg (fun reply => (reply.map (·.1)).getD (time + duration)) hreply

/-- What can be seen of a trace is the same. -/
theorem trace (h : s.Alike t) (steps : List Step) :
    (s.trace steps).map (fun m => (m.time, m.outcome, m.events)) =
      (t.trace steps).map fun m => (m.time, m.outcome, m.events) := by
  induction steps generalizing s t with
  | nil => rfl
  | cons step steps ih =>
    obtain ⟨houtcome, hevents, hafter⟩ := h.moment step
    have htime : (s.moment step).time = (t.moment step).time := hafter.time
    rw [trace_cons, trace_cons, List.map_cons, List.map_cons, htime, houtcome, hevents,
      ih hafter]

end Scene.Alike

/-! ## Replies -/

/-- Whatever arrives at a probe's socket, and whatever is done to the probe, in any order: what the
steps read is, one step after the other, what has arrived, up to what is still waiting; no step
reads beyond the reply that it yields; and what was yielded are the replies among what was read.
With a step for each arrival and one more every poll comes to its end, and as long as no read fails
polls go on to read everything. What was left in the receive buffer makes no difference to
anything. -/
theorem replies_of_socket (time : Nat) (host : Host) (identifier nextSequence : UInt16)
    (socket : Descriptor) (inbox : Inbox) (steps : List Step) :
    let s : Scene := ⟨time, host, ⟨identifier, nextSequence, .socket socket inbox⟩⟩
    (∃ reads : List (List Arrival),
      List.Forall₂ (Moment.Reads identifier) (s.trace steps) reads ∧
      inbox.waiting ++ steps.flatMap Step.arrivals =
        reads.flatten ++ (s.run steps).probe.waiting ∧
      (s.trace steps).filterMap (·.outcome.reply?) =
        reads.flatten.filterMap (·.reply? identifier)) ∧
    (∀ now fewer more, (s.run steps).probe.waiting.length < fewer →
      (s.run steps).probe.waiting.length < more →
      ((s.run steps).probe.pollWithin now fewer).1 =
          ((s.run steps).probe.pollWithin now more).1 ∧
        ((s.run steps).probe.pollWithin now fewer).2.2 =
          ((s.run steps).probe.pollWithin now more).2.2) ∧
    (inbox.Intact → (∀ cause, .failure cause ∉ steps.flatMap Step.arrivals) →
      ∀ polls, (s.run steps).probe.waiting.length ≤ polls →
        (s.run (steps ++ List.replicate polls .poll)).probe.waiting = []) ∧
    ∀ buffer : ReceiveBuffer,
      let t : Scene :=
        ⟨time, host, ⟨identifier, nextSequence, .socket socket { inbox with buffer }⟩⟩
      (t.trace steps).map (fun m => (m.time, m.outcome, m.events)) =
        (s.trace steps).map fun m => (m.time, m.outcome, m.events) := by
  intro s
  have hs : Listens identifier socket inbox s.probe := ⟨rfl, rfl⟩
  obtain ⟨j, hrun, reads, hreads, hsplit⟩ := hs.trace steps
  refine ⟨⟨reads, hreads, ?_, filterMap_flatten_reads hreads⟩, ?_, ?_, ?_⟩
  · rw [hrun.waiting_eq]
    exact hsplit
  · intro now fewer more hfewer hmore
    exact hrun.pollWithin_steps now hfewer hmore
  · intro hintact hreadable polls hpolls
    obtain ⟨k, hlistens, hend⟩ := hs.intact hintact hreadable
    rw [Scene.run_append]
    exact hlistens.polls hend (hlistens.waiting_eq ▸ hpolls)
  · intro buffer t
    have halike : t.Alike s := ⟨rfl, rfl, .intro ⟨rfl, rfl⟩⟩
    exact halike.trace steps

end PingTun.Probe
