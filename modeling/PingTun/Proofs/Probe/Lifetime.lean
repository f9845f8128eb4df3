-- SUMMARY: The whole life of a probe: its steps while the event loop is running, and those after it is gone.
import PingTun.Proofs.Probe.Sends
import PingTun.Proofs.Probe.Trace
import PingTun.Proofs.Probe.Waits

/-! # Lifetimes

A probe may outlive its event loop. What is done to it then is done by the same operations, which
have less to go by: a wait is no more than a poll, and what needs a timer is aborted, with which the
trace ends. What polls and arrivals leave alone they leave alone throughout.
-/

namespace PingTun.Probe

/-! ## What only sends change -/

/-- Two probes that agree on all that requests are made of. -/
structure SameSender (p q : Probe) : Prop where
  identifier : q.identifier = p.identifier
  nextSequence : q.nextSequence = p.nextSequence
  state : q.state = p.state

namespace SameSender

variable {p q r : Probe}

theorem refl (p : Probe) : SameSender p p := ⟨rfl, rfl, rfl⟩

theorem trans (h : SameSender p q) (hlater : SameSender q r) : SameSender p r :=
  ⟨hlater.identifier.trans h.identifier, hlater.nextSequence.trans h.nextSequence,
    hlater.state.trans h.state⟩

end SameSender

theorem sameSender_arrive (p : Probe) (arrivals : List Arrival) :
    SameSender p (p.arrive arrivals) := by
  obtain ⟨identifier, nextSequence, backend⟩ := p
  cases backend with
  | socket socket inbox => exact ⟨rfl, rfl, rfl⟩
  | failed => exact .refl _
  | simulated simulation => exact .refl _

theorem sameSender_pollWithin (p : Probe) (now steps : Nat) :
    SameSender p (p.pollWithin now steps).2.2.1 := by
  obtain ⟨identifier, nextSequence, backend⟩ := p
  cases backend with
  | socket socket inbox => exact ⟨rfl, rfl, rfl⟩
  | failed => exact .refl _
  | simulated simulation => exact ⟨rfl, rfl, rfl⟩

theorem sameSender_of_pollWithin {p q : Probe} {now steps left : Nat} {reply : Option Address}
    {events : List Event} (h : p.pollWithin now steps = (reply, left, q, events)) :
    SameSender p q := by
  have hsame := sameSender_pollWithin p now steps
  rwa [h] at hsame

theorem Idle.sameSender {start time : Nat} {p q : Probe} (h : Idle start p time q) :
    SameSender p q := by
  induction h with
  | refl => exact .refl _
  | later _ _ ih => exact ih
  | poll _ hpoll ih => exact ih.trans (sameSender_of_pollWithin hpoll)

theorem sameSender_next {now last : Nat} (hle : now ≤ last) (p : Probe) :
    SameSender p (p.next now last).2.1 := by
  cases hnext : p.next now last with
  | mk reply rest =>
    obtain ⟨q, events⟩ := rest
    cases reply with
    | none =>
      obtain ⟨r, left, further, hidle, hpoll⟩ := idle_of_next_none hle hnext
      exact hidle.sameSender.trans (sameSender_of_pollWithin hpoll)
    | some found =>
      obtain ⟨-, r, steps, left, further, hidle, hpoll⟩ := idle_of_next_some hle hnext
      exact hidle.sameSender.trans (sameSender_of_pollWithin hpoll)

theorem sameSender_of_poll {p q : Probe} {eventLoop : EventLoop} {reply : Option Address}
    {events : List Event} (h : p.poll eventLoop = .ok (reply, q, events)) : SameSender p q := by
  unfold poll at h
  split at h
  · cases h
    exact sameSender_pollWithin p _ _
  · split at h
    · cases h
      exact .refl p
    · cases h
      exact .refl p
    · rename_i simulation hp
      split at h
      · cases h
        exact ⟨rfl, rfl, by simp only [state, hp]⟩
      · cases h

/-- Every step that is no send leaves alone what requests are made of. -/
theorem Scene.sameSender_moment (s : Scene) {step : Step}
    (hstep : ∀ now ping, step ≠ .send now ping) :
    SameSender s.probe (s.moment step).after.probe := by
  cases step with
  | send now ping => exact absurd rfl (hstep now ping)
  | advance duration => exact .refl _
  | arrive arrivals => exact sameSender_arrive s.probe arrivals
  | poll => exact sameSender_pollWithin s.probe s.time EventLoop.stepsPerTurn
  | wait duration => exact sameSender_next (Nat.le_add_right ..) s.probe

/-! ## After the event loop is gone -/

namespace Scene

/-- Look for a reply after the event loop is gone. -/
def orphanLook (s : Scene) (step : Step) : Except Abort Moment :=
  (s.probe.poll { running := false, now := s.time }).map fun (reply, probe, events) =>
    { before := s, step, outcome := .ofReply reply, events, after := { s with probe } }

/-- Take a step after the event loop is gone. A wait is no more than a poll then. -/
def orphanMoment (s : Scene) (step : Step) : Except Abort Moment :=
  match step with
  | .send now ping =>
    match s.probe.send { running := false, now := s.time } now ping s.host with
    | (.error abort, _) => .error abort
    | (.ok (accepted, probe, events), host) =>
      .ok { before := s, step, outcome := .sent accepted, events, after := { s with host, probe } }
  | .advance _ | .arrive _ => .ok (s.moment step)
  | .poll | .wait _ => s.orphanLook step

/-- All moments of a number of steps after the event loop is gone, up to one that is aborted. -/
def orphanTrace (s : Scene) : List Step → List Moment
  | [] => []
  | step :: steps =>
    match s.orphanMoment step with
    | .error _ => []
    | .ok m => m :: m.after.orphanTrace steps

/-- All moments of a probe's life: steps while the event loop is running, and further ones after it
is gone. -/
def lifetime (s : Scene) (steps orphaned : List Step) : List Moment :=
  s.trace steps ++ (s.run steps).orphanTrace orphaned

/-- To look for a reply changes neither the system nor what requests are made of. -/
theorem orphanLook_spec {s : Scene} {step : Step} {m : Moment} (h : s.orphanLook step = .ok m) :
    m.before = s ∧ m.step = step ∧ m.after.host = s.host ∧ SameSender s.probe m.after.probe := by
  unfold orphanLook at h
  cases hpoll : s.probe.poll { running := false, now := s.time } with
  | error abort =>
    rw [hpoll] at h
    cases h
  | ok answer =>
    obtain ⟨reply, probe, events⟩ := answer
    rw [hpoll] at h
    cases h
    exact ⟨rfl, rfl, rfl, sameSender_of_poll hpoll⟩

/-- A request that needs a timer is aborted once the event loop is gone. -/
theorem send_of_needsTimer {p : Probe} {ping : Ping} (htimer : p.needsTimer ping = true)
    (time : Nat) (now : Echo.Instant) (h : Host) :
    p.send { running := false, now := time } now ping h = (.error .timerSet, h) := by
  rw [send_eq, htimer]
  rfl

/-- A request that needs no timer is sent without the event loop. -/
theorem send_of_not_needsTimer {p : Probe} {ping : Ping} (htimer : p.needsTimer ping = false)
    (time : Nat) (now : Echo.Instant) (h : Host) :
    p.send { running := false, now := time } now ping h =
      (.ok (p.sendAt time now ping h).1, (p.sendAt time now ping h).2) := by
  rw [send_eq, htimer]
  rfl

/-- A step after the event loop is gone is what it was before, if it is not aborted, or it looks for
a reply. -/
theorem orphanMoment_cases {s : Scene} {step : Step} {m : Moment}
    (h : s.orphanMoment step = .ok m) :
    m = s.moment step ∨ ((∀ now ping, step ≠ .send now ping) ∧ s.orphanLook step = .ok m) := by
  cases step with
  | send now ping =>
    left
    cases htimer : s.probe.needsTimer ping with
    | true =>
      rw [orphanMoment, send_of_needsTimer htimer] at h
      cases h
    | false =>
      rw [orphanMoment, send_of_not_needsTimer htimer] at h
      cases h
      rfl
  | advance duration =>
    cases h
    exact .inl rfl
  | arrive arrivals =>
    cases h
    exact .inl rfl
  | poll => exact .inr ⟨nofun, h⟩
  | wait duration => exact .inr ⟨nofun, h⟩

end Scene

/-! ## Moments one after the other -/

/-- Moments each of which begins where the one in front of it ended. -/
inductive Consecutive : Scene → List Moment → Prop
  | nil {s : Scene} : Consecutive s []
  | cons {m : Moment} {log : List Moment} :
    Consecutive m.after log → Consecutive m.before (m :: log)

/-- Where moments that begin at a scene end. -/
def Scene.behind (s : Scene) (log : List Moment) : Scene := (log.getLast?.map (·.after)).getD s

@[simp] theorem Scene.behind_nil (s : Scene) : s.behind [] = s := rfl

@[simp] theorem Scene.behind_cons (s : Scene) (m : Moment) (log : List Moment) :
    s.behind (m :: log) = m.after.behind log := by
  unfold behind
  cases log with
  | nil => rfl
  | cons later log => simp [List.getLast?_cons]

namespace Scene

theorem consecutive_trace (s : Scene) (steps : List Step) {log : List Moment}
    (hlog : Consecutive (s.run steps) log) : Consecutive s (s.trace steps ++ log) := by
  induction steps generalizing s with
  | nil => exact hlog
  | cons step steps ih =>
    have hnext : Consecutive (s.moment step).before (s.moment step :: _) := .cons (ih _ hlog)
    rw [before_moment] at hnext
    exact hnext

theorem before_orphanMoment {s : Scene} {step : Step} {m : Moment}
    (h : s.orphanMoment step = .ok m) : m.before = s := by
  rcases orphanMoment_cases h with rfl | ⟨-, hlook⟩
  · exact before_moment ..
  · exact (orphanLook_spec hlook).1

theorem consecutive_orphanTrace (s : Scene) (steps : List Step) :
    Consecutive s (s.orphanTrace steps) := by
  induction steps generalizing s with
  | nil => exact .nil
  | cons step steps ih =>
    rw [orphanTrace]
    cases hm : s.orphanMoment step with
    | error abort => exact .nil
    | ok m =>
      rw [← before_orphanMoment hm]
      exact .cons (ih m.after)

theorem consecutive_lifetime (s : Scene) (steps orphaned : List Step) :
    Consecutive s (s.lifetime steps orphaned) :=
  s.consecutive_trace steps (consecutive_orphanTrace ..)

end Scene

/-! ## Laws of every step -/

namespace Scene

/-- Take a step while the event loop is running, or after it is gone. -/
def momentUnder (s : Scene) (running : Bool) (step : Step) : Except Abort Moment :=
  if running then .ok (s.moment step) else s.orphanMoment step

/-- All moments of a number of steps, each with the event loop running or without, up to one that
is aborted. -/
def course (s : Scene) : List (Bool × Step) → List Moment
  | [] => []
  | (running, step) :: steps =>
    match s.momentUnder running step with
    | .error _ => []
    | .ok m => m :: m.after.course steps

/-- A life is a course that loses its event loop once, and for good. -/
theorem lifetime_eq_course (s : Scene) (steps orphaned : List Step) :
    s.lifetime steps orphaned =
      s.course (steps.map (true, ·) ++ orphaned.map (false, ·)) := by
  have horphaned (t : Scene) : t.orphanTrace orphaned = t.course (orphaned.map (false, ·)) := by
    induction orphaned generalizing t with
    | nil => rfl
    | cons step orphaned ih =>
      simp only [orphanTrace, List.map_cons, course, momentUnder, Bool.false_eq_true, if_false, ih]
  unfold lifetime
  induction steps generalizing s with
  | nil => exact horphaned s
  | cons step steps ih => exact congrArg (s.moment step :: ·) (ih (s.moment step).after)

/-- A law of every step that starts from a good scene, and leads to one, holds of all moments of a
course that starts from a good scene. -/
theorem law_of_mem_course (Good : Scene → Prop) {Law : Moment → Prop}
    (hstep : ∀ s running step m, Good s → s.momentUnder running step = .ok m →
      Law m ∧ Good m.after)
    {s : Scene} (hs : Good s) (steps : List (Bool × Step)) : ∀ m ∈ s.course steps, Law m := by
  induction steps generalizing s with
  | nil => exact List.forall_mem_nil Law
  | cons first steps ih =>
    obtain ⟨running, step⟩ := first
    rw [course]
    cases hm : s.momentUnder running step with
    | error abort => exact List.forall_mem_nil Law
    | ok m =>
      obtain ⟨hlaw, hafter⟩ := hstep s running step m hs hm
      exact List.forall_mem_cons.mpr ⟨hlaw, ih hafter⟩

/-- A law of every step, with the event loop and without, holds of all moments of a life. -/
theorem law_of_mem_lifetime (Good : Scene → Prop) {Law : Moment → Prop}
    (hstep : ∀ s step, Good s → Law (s.moment step) ∧ Good (s.moment step).after)
    (horphan : ∀ s step m, Good s → s.orphanMoment step = .ok m → Law m ∧ Good m.after)
    {s : Scene} (hs : Good s) (steps orphaned : List Step) :
    ∀ m ∈ s.lifetime steps orphaned, Law m := by
  rw [lifetime_eq_course]
  refine law_of_mem_course Good ?_ hs _
  intro s running step m hs hm
  cases running with
  | false => exact horphan s step m hs hm
  | true =>
    cases hm
    exact hstep s step hs

end Scene

end PingTun.Probe
