-- SUMMARY: Simulated replies: the ones that are outstanding, when each is due, and their timer.
import PingTun.Config.Basic
import PingTun.Event
import PingTun.Probe.Agenda
import PingTun.Probe.Clock

/-! # Simulated replies

Every request is answered after a fixed delay, except for requests into one network, which never
are. A poll hands out the next reply if it is due.

One timer at a time wakes whoever waits for a reply, at each stop on the way to it. The event loop
gets to know of the timer from the first poll that has to wait for it, or when it is set anew. That
makes a difference only after the event loop is gone: a timer that the loop knew of is then up at
once, and no other can be set or asked. Replies that are due no later than the last stop that was
come to are overdue from the outset, and need no timer.
-/

namespace PingTun

structure Timer where
  due : Nat
  /-- Whether the event loop knows of it. -/
  asked : Bool := false
deriving DecidableEq, Repr

structure Simulation where
  /-- In milliseconds. -/
  delay : Nat
  unreachable : Network
  /-- Replies that need no timer, the last of which comes first. -/
  overdue : List Address := []
  agenda : Agenda := {}
  timer : Option Timer := none
  /-- What the last timer that was up had been set to. -/
  rang : Nat := 0
  /-- The last stop that was come to. -/
  reached : Nat := 0
deriving DecidableEq

namespace Simulation

def ofConfig (c : ProbeConfig) : Simulation :=
  { delay := c.effectiveDelay, unreachable := c.unreachable }

/-- When the reply to a request that is sent now is due. -/
def dueTime (s : Simulation) (now : Nat) : Nat :=
  max (Clock.roundUp (now + Clock.ofMilliseconds s.delay)) s.reached

/-- The number of replies that are still to be handed out. -/
def outstanding (s : Simulation) : Nat := s.overdue.length + s.agenda.toList.length

/-! ## Requests -/

/-- Whether a request needs a new timer. -/
def needsTimer (s : Simulation) (address : Address) : Bool :=
  !s.unreachable.contains address && s.timer.isNone

/-- The timer when another reply is due at a time. -/
def timerWith (s : Simulation) (due : Nat) : Timer :=
  match s.timer with
  | none => { due }
  | some timer => if due < timer.due then { due, asked := true } else timer

/-- Schedule the reply to a request, if there is one. -/
def schedule (s : Simulation) (now : Nat) (address : Address) : Simulation × Event :=
  if s.unreachable.contains address then (s, .replyWithheld address)
  else
    let due := s.dueTime now
    let s := { s with timer := some (s.timerWith due) }
    (if due ≤ s.reached then { s with overdue := address :: s.overdue }
      else { s with agenda := s.agenda.insert ⟨due, address⟩ },
      .replyScheduled address s.delay)

/-! ## Timers -/

/-- Set a timer for the first stop on the way to the next reply, if there is one. -/
def setTimer (s : Simulation) : Simulation :=
  { s with timer := s.agenda.next?.map fun reply => { due := Clock.nextStop s.reached reply.due } }

/-- What the timer that is up, or was last, had been set to. -/
def rings (s : Simulation) : Nat := (s.timer.map (·.due)).getD s.rang

/-- Hand out the next reply if the timer that is up had been set to a time when it is due. Whatever
there still is to come needs another timer. -/
def ring (s : Simulation) : Option Address × Simulation :=
  let time := s.rings
  match s.agenda.next?.filter (·.due ≤ time) with
  | none => (none, { s with rang := time, reached := time }.setTimer)
  | some reply =>
    let stop := Clock.roundDown (Clock.stopUnit 1) reply.due
    (some reply.address,
      { s with agenda := s.agenda.tail, rang := time, reached := max s.reached stop }.setTimer)

theorem outstanding_ring (s : Simulation) :
    s.ring.2.outstanding + s.ring.1.toList.length = s.outstanding := by
  unfold ring
  dsimp only
  split
  · simp [outstanding, setTimer]
  · rename_i reply hreply
    obtain ⟨hnext, -⟩ := Option.filter_eq_some_iff.mp hreply
    rw [← Agenda.head?_toList, List.head?_eq_some_iff] at hnext
    obtain ⟨rest, hrest⟩ := hnext
    simp [outstanding, setTimer, hrest, Nat.add_assoc]

/-! ## Replies -/

/-- Go from stop to stop up to the next reply or to the first stop that is still to come, as long
as there are steps left. Their number is given back. -/
def walk (now : Nat) : Nat → Simulation → Option Address × Nat × Simulation
  | 0, s => (none, 0, s)
  | steps + 1, s =>
    match s.timer with
    | none => (none, steps + 1, s)
    | some timer =>
      if now < timer.due then
        (none, steps + 1, { s with timer := some { timer with asked := true } })
      else
        match s.ring with
        | (some address, s) => (some address, steps, s)
        | (none, s) => walk now steps s

/-- Hand out the next reply if it is due. To come to a stop takes a step, unless the event loop
was waiting for it. -/
def poll (s : Simulation) (now steps : Nat) : Option Address × Nat × Simulation :=
  match s.overdue with
  | address :: rest => (some address, steps, { s with overdue := rest })
  | [] =>
    if s.timer.all fun timer => timer.asked && timer.due ≤ now then
      match s.ring with
      | (some address, s) => (some address, steps, s)
      | (none, s) => s.walk now steps
    else s.walk now steps

/-- Hand out the next reply after the event loop is gone. -/
def pollOrphaned (s : Simulation) : Except Abort (Option Address × Simulation) :=
  match s.overdue with
  | address :: rest => .ok (some address, { s with overdue := rest })
  | [] =>
    if s.timer.all (·.asked) then
      let (reply, s) := s.ring
      if s.timer.isSome then .error .timerSet else .ok (reply, s)
    else .error .timerAsked

theorem outstanding_walk (now steps : Nat) (s : Simulation) :
    (s.walk now steps).2.2.outstanding + (s.walk now steps).1.toList.length = s.outstanding := by
  induction steps generalizing s with
  | zero => rfl
  | succ steps ih =>
    have hring := s.outstanding_ring
    rw [walk]
    split
    · rfl
    split
    · rfl
    split
    · rename_i hanswer
      rwa [hanswer] at hring
    · rename_i later hanswer
      rw [hanswer] at hring
      rw [ih later]
      exact hring

theorem outstanding_poll (s : Simulation) (now steps : Nat) :
    (s.poll now steps).2.2.outstanding + (s.poll now steps).1.toList.length = s.outstanding := by
  have hring := s.outstanding_ring
  unfold poll
  split
  · rename_i address rest hoverdue
    simp only [outstanding, hoverdue, Option.toList_some, List.length_cons, List.length_nil]
    omega
  · split
    · split
      · rename_i hanswer
        rwa [hanswer] at hring
      · rename_i later hanswer
        rw [hanswer] at hring
        rw [outstanding_walk]
        exact hring
    · exact outstanding_walk ..

end Simulation

end PingTun
