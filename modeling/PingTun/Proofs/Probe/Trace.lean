-- SUMMARY: What is done to a probe while the event loop is running, and what comes of each step.
import PingTun.Probe.Sending
import PingTun.Probe.Waiting

/-! # Traces

A probe is sent with, polled and waited on while time goes on and things arrive at its socket. A
scene is a probe with the time and the system below it, and a trace keeps, step by step, the scene
before and after, what came of the step, and what was logged. The event loop is running throughout,
each poll has a turn of it to itself, and the system answers by its script.
-/

namespace PingTun

namespace Probe

/-- What is done to a probe, or happens around it. -/
inductive Step
  | send (now : Echo.Instant) (ping : Ping)
  | advance (duration : Nat)
  | arrive (arrivals : List Arrival)
  | poll
  /-- Wait for a reply, and give up after a duration. -/
  | wait (duration : Nat)

/-- What comes of a step. -/
inductive Outcome
  | passed
  | sent (accepted : Bool)
  | yielded (address : Address)
  | pending
deriving DecidableEq

namespace Outcome

def ofReply : Option Address → Outcome
  | some address => .yielded address
  | none => .pending

/-- The address that is yielded, if one is. -/
def reply? : Outcome → Option Address
  | .yielded address => some address
  | _ => none

/-- The answer to a send, if it was one. -/
def accepted? : Outcome → Option Bool
  | .sent accepted => some accepted
  | _ => none

@[simp] theorem accepted?_ofReply (reply : Option Address) : (ofReply reply).accepted? = none := by
  cases reply with
  | none => rfl
  | some address => rfl

@[simp] theorem reply?_ofReply (reply : Option Address) : (ofReply reply).reply? = reply := by
  cases reply with
  | none => rfl
  | some address => rfl

end Outcome

/-- What arrives in a step. -/
def Step.arrivals : Step → List Arrival
  | .arrive arrivals => arrivals
  | _ => []

/-- A probe, the system below it, and the time of the event loop. -/
structure Scene where
  time : Nat
  host : Host
  probe : Probe

/-- A step with the scenes around it. -/
structure Moment where
  before : Scene
  step : Step
  outcome : Outcome
  events : List Event
  after : Scene

namespace Moment

/-- When a step came to its end. -/
def time (m : Moment) : Nat := m.after.time

/-- The calls made to the system in a step. -/
def calls (m : Moment) : List Call := m.after.host.calls.drop m.before.host.calls.length

theorem calls_eq {m : Moment} {calls : List Call}
    (h : m.after.host.calls = m.before.host.calls ++ calls) : m.calls = calls := by
  rw [Moment.calls, h, List.drop_left]

theorem calls_quiet {m : Moment} (h : m.after.host = m.before.host) : m.calls = [] := by
  apply calls_eq
  rw [h, List.append_nil]

end Moment

namespace Scene

/-- A probe that is opened at a time of the event loop. -/
def opened (time : Nat) (c : ProbeConfig) (identifier : UInt16) (host : Host) : Scene :=
  let ((probe, _), host) := Probe.open { running := true, now := time } c identifier host
  { time, host, probe }

/-! ## Steps -/

/-- Take a step. A wait takes as long as it takes for a reply to come. -/
def moment (s : Scene) (step : Step) : Moment :=
  match step with
  | .send now ping =>
    let ((accepted, probe, events), host) := s.probe.sendAt s.time now ping s.host
    { before := s, step, outcome := .sent accepted, events, after := { s with host, probe } }
  | .advance duration =>
    { before := s, step, outcome := .passed, events := []
      after := { s with time := s.time + duration } }
  | .arrive arrivals =>
    { before := s, step, outcome := .passed, events := []
      after := { s with probe := s.probe.arrive arrivals } }
  | .poll =>
    let (reply, probe, events) := s.probe.pollAt s.time
    { before := s, step, outcome := .ofReply reply, events, after := { s with probe } }
  | .wait duration =>
    let last := s.time + duration
    let (reply, probe, events) := s.probe.next s.time last
    { before := s, step, outcome := .ofReply (reply.map (·.2)), events
      after := { s with time := (reply.map (·.1)).getD last, probe } }

@[simp] theorem before_moment (s : Scene) (step : Step) : (s.moment step).before = s := by
  cases step <;> rfl

@[simp] theorem step_moment (s : Scene) (step : Step) : (s.moment step).step = step := by
  cases step <;> rfl

section

variable {s : Scene} {p : Probe} {events : List Event}

theorem moment_send {now : Echo.Instant} {ping : Ping} {accepted : Bool} {host : Host}
    (h : s.probe.sendAt s.time now ping s.host = ((accepted, p, events), host)) :
    s.moment (.send now ping) =
      ⟨s, .send now ping, .sent accepted, events, { s with host, probe := p }⟩ := by
  simp only [moment, h]

theorem moment_advance (s : Scene) (duration : Nat) :
    s.moment (.advance duration) =
      ⟨s, .advance duration, .passed, [], { s with time := s.time + duration }⟩ := rfl

theorem moment_poll {reply : Option Address} {left : Nat}
    (h : s.probe.pollWithin s.time EventLoop.stepsPerTurn = (reply, left, p, events)) :
    s.moment .poll = ⟨s, .poll, .ofReply reply, events, { s with probe := p }⟩ := by
  simp only [moment, pollAt, h]

theorem moment_wait_none {duration : Nat}
    (h : s.probe.next s.time (s.time + duration) = (none, p, events)) :
    s.moment (.wait duration) =
      ⟨s, .wait duration, .pending, events,
        { s with time := s.time + duration, probe := p }⟩ := by
  simp only [moment, h]
  rfl

theorem moment_wait_some {duration time : Nat} {address : Address}
    (h : s.probe.next s.time (s.time + duration) = (some (time, address), p, events)) :
    s.moment (.wait duration) =
      ⟨s, .wait duration, .yielded address, events, { s with time, probe := p }⟩ := by
  simp only [moment, h]
  rfl

end

/-! ## Traces -/

/-- Where steps lead to. -/
def run (s : Scene) : List Step → Scene
  | [] => s
  | step :: steps => (s.moment step).after.run steps

/-- All moments of a number of steps. -/
def trace (s : Scene) : List Step → List Moment
  | [] => []
  | step :: steps => s.moment step :: (s.moment step).after.trace steps

@[simp] theorem run_nil (s : Scene) : s.run [] = s := rfl

@[simp] theorem run_cons (s : Scene) (step : Step) (steps : List Step) :
    s.run (step :: steps) = (s.moment step).after.run steps := rfl

@[simp] theorem trace_nil (s : Scene) : s.trace [] = [] := rfl

@[simp] theorem trace_cons (s : Scene) (step : Step) (steps : List Step) :
    s.trace (step :: steps) = s.moment step :: (s.moment step).after.trace steps := rfl

theorem run_append (s : Scene) (steps later : List Step) :
    s.run (steps ++ later) = (s.run steps).run later := by
  induction steps generalizing s with
  | nil => rfl
  | cons step steps ih => exact ih _

theorem trace_append (s : Scene) (steps later : List Step) :
    s.trace (steps ++ later) = s.trace steps ++ (s.run steps).trace later := by
  induction steps generalizing s with
  | nil => rfl
  | cons step steps ih => simp [ih]

theorem length_trace (s : Scene) (steps : List Step) : (s.trace steps).length = steps.length := by
  induction steps generalizing s with
  | nil => rfl
  | cons step steps ih => exact congrArg (· + 1) (ih _)

/-- The last moment of a trace leads to where the steps lead to. -/
theorem after_getLast? {s : Scene} {steps : List Step} {m : Moment}
    (h : m ∈ (s.trace steps).getLast?) : m.after = s.run steps := by
  induction steps generalizing s with
  | nil => cases h
  | cons step steps ih =>
    cases steps with
    | nil =>
      cases h
      rfl
    | cons later steps => exact ih h

/-- Polls take no time. -/
theorem time_polls (s : Scene) (polls : Nat) :
    (s.run (List.replicate polls .poll)).time = s.time := by
  induction polls generalizing s with
  | zero => rfl
  | succ polls ih =>
    rw [List.replicate_succ, run_cons, ih]
    rfl

/-- What each step keeps holds in front of every moment of a trace. -/
theorem holds_of_mem_trace {Good : Scene → Prop}
    (hstep : ∀ s step, Good s → Good (s.moment step).after) {s : Scene} (hs : Good s)
    {steps : List Step} {m : Moment} (hm : m ∈ s.trace steps) :
    Good m.before ∧ m = m.before.moment m.step := by
  induction steps generalizing s with
  | nil => cases hm
  | cons step steps ih =>
    rcases List.mem_cons.mp hm with rfl | hlater
    · simpa using hs
    · exact ih (hstep s step hs) hlater

end Scene

/-! ## Polls until one is in vain -/

/-- A trace that ends in vain. -/
def EndsPending (log : List Moment) : Prop := log.getLast?.map (·.outcome) = some .pending

theorem EndsPending.append {later : List Moment} (log : List Moment) (h : EndsPending later) :
    EndsPending (log ++ later) := by
  unfold EndsPending at *
  cases hlast : later.getLast? with
  | none => simp [hlast] at h
  | some m => simpa [List.getLast?_append, hlast] using h

theorem EndsPending.exists_last {log : List Moment} (h : EndsPending log) :
    ∃ m ∈ log.getLast?, m.outcome = .pending :=
  Option.map_eq_some_iff.mp h

/-- If every poll is in vain or leaves fewer replies to come, and none comes after one that was in
vain, the last of more polls than replies is in vain. -/
theorem pending_of_polls {σ : Type} (moment : σ → Moment) (next : σ → σ)
    (trace : σ → Nat → List Moment) (Coming : σ → Nat → Prop)
    (htrace : ∀ s polls, trace s (polls + 1) = moment s :: trace (next s) polls)
    (hnone : ∀ s, trace s 0 = [])
    (hpoll : ∀ s replies, Coming s replies →
      ((moment s).outcome = .pending ∧ Coming (next s) 0) ∨
        ∃ fewer < replies, Coming (next s) fewer)
    {s : σ} {replies polls : Nat} (hcoming : Coming s replies) (hpolls : replies < polls) :
    EndsPending (trace s polls) := by
  unfold EndsPending
  induction polls generalizing s replies with
  | zero => exact absurd hpolls (Nat.not_lt_zero _)
  | succ polls ih =>
    rw [htrace]
    cases polls with
    | zero =>
      rcases hpoll s replies hcoming with ⟨hpending, -⟩ | ⟨fewer, hfewer, -⟩
      · rw [hnone, List.getLast?_singleton, Option.map_some, hpending]
      · exact absurd (Nat.lt_of_lt_of_le hfewer (Nat.le_of_lt_succ hpolls)) (Nat.not_lt_zero _)
    | succ polls =>
      have hlast : (moment s :: trace (next s) (polls + 1)).getLast? =
          (trace (next s) (polls + 1)).getLast? := by
        rw [htrace, List.getLast?_cons_cons]
      rw [hlast]
      rcases hpoll s replies hcoming with ⟨-, hrest⟩ | ⟨fewer, hfewer, hrest⟩
      · exact ih hrest (Nat.succ_pos _)
      · exact ih hrest (Nat.lt_of_lt_of_le hfewer (Nat.le_of_lt_succ hpolls))

end Probe

end PingTun
