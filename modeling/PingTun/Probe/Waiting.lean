-- SUMMARY: Polling for echo replies, and waiting for them.
import PingTun.Probe.Basic

/-! # Waiting

Polling looks for a reply without waiting, within one turn of the event loop. Waiting polls for as
many turns as it takes, and polls again whenever a timer is up. At the last point in time there is
no other turn for a poll that runs out of steps, only for one behind a reply. What arrives at a
socket arrives between waits.
-/

namespace PingTun.Probe

/-! ## Polling -/

/-- Look for a reply while the event loop is running, as long as there are steps left. Their number
is given back. -/
def pollWithin (now steps : Nat) (p : Probe) : Option Address × Nat × Probe × List Event :=
  match p.backend with
  | .socket socket inbox =>
    let (reply, steps, inbox, events) := inbox.poll p.identifier steps
    (reply, steps, { p with backend := .socket socket inbox }, events)
  | .failed => (none, steps, p, [])
  | .simulated simulation =>
    let (reply, steps, simulation) := simulation.poll now steps
    (reply, steps, { p with backend := .simulated simulation }, [])

/-- Look for a reply in a turn of its own. -/
def pollAt (now : Nat) (p : Probe) : Option Address × Probe × List Event :=
  let (reply, _, p, events) := p.pollWithin now EventLoop.stepsPerTurn
  (reply, p, events)

/-- Look for a reply. Once the event loop is gone nothing tells whether a socket is ready, and of
the simulated replies only those can be asked for that need no further timer. -/
def poll (eventLoop : EventLoop) (p : Probe) :
    Except Abort (Option Address × Probe × List Event) :=
  if eventLoop.running then .ok (p.pollAt eventLoop.now)
  else
    match p.backend with
    | .socket .. => .ok (none, p, [.readinessLost])
    | .failed => .ok (none, p, [])
    | .simulated simulation =>
      match simulation.pollOrphaned with
      | .ok (reply, simulation) => .ok (reply, { p with backend := .simulated simulation }, [])
      | .error abort => .error abort

/-- The number of replies and other arrivals that are still to be looked at. -/
def backlog (p : Probe) : Nat :=
  match p.backend with
  | .socket _ inbox => inbox.waiting.length
  | .failed => 0
  | .simulated simulation => simulation.outstanding

theorem backlog_pollWithin (now steps : Nat) (p : Probe) :
    (p.pollWithin now steps).2.2.1.backlog + (p.pollWithin now steps).1.toList.length ≤
      p.backlog := by
  unfold pollWithin
  split
  · rename_i socket inbox hp
    simpa [backlog, hp] using inbox.length_waiting_poll p.identifier steps
  · simp
  · rename_i simulation hp
    simp [backlog, hp, simulation.outstanding_poll now steps]

/-! ## Waiting for one reply -/

/-- When the event loop is to wake whoever waits for a reply. -/
def wakeTime? (p : Probe) : Option Nat :=
  match p.backend with
  | .simulated simulation => simulation.timer.map (·.due)
  | _ => none

/-- The number of arrivals that are still to be read. -/
def unread (p : Probe) : Nat :=
  match p.backend with
  | .socket _ inbox => inbox.waiting.length
  | _ => 0

/-- So many steps are enough for any poll: an arrival takes one, and a simulated reply has fewer
stops than a turn has steps. -/
def enoughSteps (p : Probe) : Nat := p.unread + EventLoop.stepsPerTurn

/-- Wait for a reply in front of a last point in time, with so many steps for each poll. -/
def nextBefore (steps now last : Nat) (p : Probe) :
    Option (Nat × Address) × Probe × List Event :=
  if _ : now < last then
    match p.pollWithin now steps with
    | (some address, _, p, events) => (some (now, address), p, events)
    | (none, _, p, events) =>
      match p.wakeTime? with
      | none => (none, p, events)
      | some time =>
        if _ : now < time then
          let (reply, p, later) := p.nextBefore steps time last
          (reply, p, events ++ later)
        else (none, p, events)
  else (none, p, [])
termination_by last - now
decreasing_by omega

theorem backlog_nextBefore (steps now last : Nat) (p : Probe) :
    (p.nextBefore steps now last).2.1.backlog +
      (p.nextBefore steps now last).1.toList.length ≤ p.backlog := by
  fun_induction nextBefore steps now last p with
  | case1 now p _ address left q events hpoll =>
    simpa [hpoll] using backlog_pollWithin now steps p
  | case2 now p _ left q events hpoll =>
    simpa [hpoll] using backlog_pollWithin now steps p
  | case3 now p _ left q events hpoll time _ _ reply r later hlater ih =>
    have hq := backlog_pollWithin now steps p
    simp only [hpoll, hlater, Option.toList_none, List.length_nil] at hq ih ⊢
    omega
  | case4 now p _ left q events hpoll =>
    simpa [hpoll] using backlog_pollWithin now steps p
  | case5 => simp

/-- What is left of a turn: one that is used up is followed by another. -/
def stepsLeft (steps : Nat) : Nat := if steps = 0 then EventLoop.stepsPerTurn else steps

/-- Wait for a reply up to a last point in time, which is included. So many steps are left of the
turn that waits at that point, and `enough` are enough for any poll in front of it. -/
def nextWithin (enough now last steps : Nat) (p : Probe) :
    Option (Nat × Address) × Nat × Probe × List Event :=
  match p.nextBefore enough now last with
  | (some reply, p, events) => (some reply, steps, p, events)
  | (none, p, events) =>
    let (reply, steps, p, later) := p.pollWithin last (stepsLeft steps)
    (reply.map (last, ·), steps, p, events ++ later)

/-- Wait for a reply up to a last point in time, which is included. -/
def next (now last : Nat) (p : Probe) : Option (Nat × Address) × Probe × List Event :=
  let (reply, _, p, events) := p.nextWithin p.enoughSteps now last 0
  (reply, p, events)

theorem backlog_nextWithin (enough now last steps : Nat) (p : Probe) :
    (p.nextWithin enough now last steps).2.2.1.backlog +
      (p.nextWithin enough now last steps).1.toList.length ≤ p.backlog := by
  have hbefore := backlog_nextBefore enough now last p
  unfold nextWithin
  split
  · rename_i hanswer
    simpa [hanswer] using hbefore
  · rename_i q events hanswer
    have hlast := backlog_pollWithin last (stepsLeft steps) q
    generalize q.pollWithin last (stepsLeft steps) = answer at hlast ⊢
    obtain ⟨reply, left, r, later⟩ := answer
    simp only [hanswer, Option.toList_none, List.length_nil, Option.length_toList,
      Option.isSome_map] at hbefore hlast ⊢
    omega

theorem backlog_of_nextWithin {enough now last steps left time : Nat} {p q : Probe}
    {address : Address} {events : List Event}
    (h : p.nextWithin enough now last steps = (some (time, address), left, q, events)) :
    q.backlog < p.backlog := by
  simpa [h, Nat.succ_le_iff] using backlog_nextWithin enough now last steps p

/-! ## Waiting for all replies -/

/-- Wait up to a last point in time. The replies with their times, and the events, go behind those
there already are, the last of which come first. -/
def collectBehind (enough now last steps : Nat) (replies : List (Nat × Address))
    (events : List Event) (p : Probe) : List (Nat × Address) × Probe × List Event :=
  match h : p.nextWithin enough now last steps with
  | (none, _, p, further) => (replies.reverse, p, events.reverse ++ further)
  | (some (time, address), left, q, further) =>
    have := backlog_of_nextWithin h
    q.collectBehind enough time last left ((time, address) :: replies) (further.reverseAux events)
termination_by p.backlog
decreasing_by assumption

/-- Wait up to a last point in time, at which so many steps are left. -/
def collectWithin (enough now last steps : Nat) (p : Probe) :
    List (Nat × Address) × Probe × List Event :=
  p.collectBehind enough now last steps [] []

/-- Wait up to a last point in time, and collect all replies with their times. -/
def collect (now last : Nat) (p : Probe) : List (Nat × Address) × Probe × List Event :=
  p.collectWithin p.enoughSteps now last 0

theorem collectBehind_eq (enough now last steps : Nat) (replies : List (Nat × Address))
    (events : List Event) (p : Probe) :
    p.collectBehind enough now last steps replies events =
      (replies.reverse ++ (p.collectWithin enough now last steps).1,
        (p.collectWithin enough now last steps).2.1,
        events.reverse ++ (p.collectWithin enough now last steps).2.2) := by
  have general (n : Nat) : ∀ (now steps : Nat) (replies : List (Nat × Address))
      (events : List Event) (p : Probe), p.backlog = n →
      p.collectBehind enough now last steps replies events =
        (replies.reverse ++ (p.collectWithin enough now last steps).1,
          (p.collectWithin enough now last steps).2.1,
          events.reverse ++ (p.collectWithin enough now last steps).2.2) := by
    induction n using Nat.strongRecOn with
    | ind n ih =>
      intro now steps replies events p hp
      unfold collectWithin
      rw [collectBehind, collectBehind]
      split
      · simp
      · rename_i time address left q further hnext
        have hq : q.backlog < n := hp ▸ backlog_of_nextWithin hnext
        rw [ih _ hq _ _ _ _ q rfl, ih _ hq _ _ [(time, address)] _ q rfl]
        simp
  exact general _ now steps replies events p rfl

/-- Waiting goes from one reply to the next. -/
theorem collectWithin_eq (enough now last steps : Nat) (p : Probe) :
    p.collectWithin enough now last steps =
      match p.nextWithin enough now last steps with
      | (none, _, p, events) => ([], p, events)
      | (some (time, address), left, q, events) =>
        let (replies, q, later) := q.collectWithin enough time last left
        ((time, address) :: replies, q, events ++ later) := by
  rw [collectWithin, collectBehind]
  split
  · rename_i hnext
    simp [hnext]
  · rename_i time address left q further hnext
    rw [collectBehind_eq]
    simp [hnext]

end PingTun.Probe
