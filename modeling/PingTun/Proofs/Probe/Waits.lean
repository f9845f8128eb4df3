-- SUMMARY: Waiting for a reply is to poll in vain now and then, and at last once more.
import PingTun.Probe.Waiting

/-! # Waits

Whoever waits for a reply polls at some points in time. All these polls come to nothing, but for the
last one perhaps. What a poll that comes to nothing keeps, and the passing of time keeps, is
therefore kept by waiting.
-/

namespace PingTun.Probe

/-- A probe at a time, and what becomes of it by polls in vain and the passing of time. -/
inductive Idle : Nat → Probe → Nat → Probe → Prop
  | refl {time : Nat} {p : Probe} : Idle time p time p
  | later {start time next : Nat} {p q : Probe} :
    Idle start p time q → time ≤ next → Idle start p next q
  | poll {start time steps left : Nat} {p q r : Probe} {events : List Event} :
    Idle start p time q → q.pollWithin time steps = (none, left, r, events) → Idle start p time r

namespace Idle

theorem trans {start time next : Nat} {p q r : Probe} (h : Idle start p time q)
    (hlater : Idle time q next r) : Idle start p next r := by
  induction hlater with
  | refl => exact h
  | later _ hle ih => exact (ih h).later hle
  | poll _ hpoll ih => exact (ih h).poll hpoll

theorem le {start time : Nat} {p q : Probe} (h : Idle start p time q) : start ≤ time := by
  induction h with
  | refl => exact Nat.le_refl _
  | later _ hle ih => exact Nat.le_trans ih hle
  | poll _ _ ih => exact ih

end Idle

/-- In front of the last point in time a wait that is given up has only polled in vain. -/
theorem idle_of_nextBefore_none {steps now last : Nat} {p q : Probe} {events : List Event}
    (hle : now ≤ last) (h : p.nextBefore steps now last = (none, q, events)) :
    Idle now p last q := by
  fun_induction nextBefore steps now last p generalizing q events with
  | case1 => cases h
  | case2 now p hlt left r further hpoll =>
    cases h
    exact (Idle.refl.poll hpoll).later hle
  | case3 now p hlt left r further hpoll time _ hwake reply t later hlater ih =>
    cases h
    have hidle : Idle now p time r := (Idle.refl.poll hpoll).later (Nat.le_of_lt hwake)
    by_cases htime : time ≤ last
    · exact hidle.trans (ih htime hlater)
    · -- Whoever is to be woken behind the last point in time is not polled there.
      rw [nextBefore, dif_neg (by omega)] at hlater
      cases hlater
      exact (Idle.refl.poll hpoll).later hle
  | case4 now p hlt left r further hpoll =>
    cases h
    exact (Idle.refl.poll hpoll).later hle
  | case5 =>
    cases h
    exact Idle.refl.later hle

/-- A wait that comes to a reply in front of the last point in time has polled in vain before. -/
theorem idle_of_nextBefore_some {steps now last time : Nat} {p q : Probe} {address : Address}
    {events : List Event} (h : p.nextBefore steps now last = (some (time, address), q, events)) :
    time < last ∧ ∃ r left further, Idle now p time r ∧
      r.pollWithin time steps = (some address, left, q, further) := by
  fun_induction nextBefore steps now last p generalizing q events with
  | case1 now p hlt found left r further hpoll =>
    cases h
    exact ⟨hlt, p, left, further, .refl, hpoll⟩
  | case2 => cases h
  | case3 now p hlt left r further hpoll wake _ hwake reply t later hlater ih =>
    cases h
    obtain ⟨htime, u, spare, more, hidle, hfound⟩ := ih hlater
    exact ⟨htime, u, spare, more, ((Idle.refl.poll hpoll).later (Nat.le_of_lt hwake)).trans hidle,
      hfound⟩
  | case4 => cases h
  | case5 => cases h

/-- A wait comes to a reply by a poll with at least the steps of a turn, behind polls in vain. -/
theorem idle_of_next_some {now last time : Nat} {p q : Probe} {address : Address}
    {events : List Event} (hle : now ≤ last)
    (h : p.next now last = (some (time, address), q, events)) :
    time ≤ last ∧ ∃ r steps left further, Idle now p time r ∧
      r.pollWithin time steps = (some address, left, q, further) := by
  unfold next nextWithin at h
  cases hbefore : p.nextBefore p.enoughSteps now last with
  | mk reply rest =>
    obtain ⟨r, earlier⟩ := rest
    rw [hbefore] at h
    cases reply with
    | some found =>
      obtain ⟨wake, source⟩ := found
      cases h
      obtain ⟨htime, t, left, further, hidle, hfound⟩ := idle_of_nextBefore_some hbefore
      exact ⟨Nat.le_of_lt htime, t, _, left, further, hidle, hfound⟩
    | none =>
      cases hlast : r.pollWithin last (stepsLeft 0) with
      | mk reply rest =>
        obtain ⟨left, t, later⟩ := rest
        cases reply with
        | none => simp [hlast] at h
        | some found =>
          simp only [hlast, Option.map_some] at h
          cases h
          exact ⟨Nat.le_refl _, r, _, left, later, idle_of_nextBefore_none hle hbefore, hlast⟩

/-- A wait that is given up has polled in vain, at last with all the steps of a turn. -/
theorem idle_of_next_none {now last : Nat} {p q : Probe} {events : List Event} (hle : now ≤ last)
    (h : p.next now last = (none, q, events)) :
    ∃ r left further, Idle now p last r ∧
      r.pollWithin last EventLoop.stepsPerTurn = (none, left, q, further) := by
  unfold next nextWithin at h
  cases hbefore : p.nextBefore p.enoughSteps now last with
  | mk reply rest =>
    obtain ⟨r, earlier⟩ := rest
    rw [hbefore] at h
    cases reply with
    | some found => cases h
    | none =>
      cases hlast : r.pollWithin last (stepsLeft 0) with
      | mk reply rest =>
        obtain ⟨left, t, later⟩ := rest
        cases reply with
        | some found => simp [hlast] at h
        | none =>
          simp only [hlast, Option.map_none] at h
          cases h
          exact ⟨r, left, later, idle_of_nextBefore_none hle hbefore, hlast⟩

end PingTun.Probe
