-- SUMMARY: What polls do to the outstanding replies: none comes early, and none that is due is missed.
import PingTun.Probe.Simulation

/-! # The timer of simulated replies

The replies that are still to come are those that need no timer, which are due at the last stop, and
those of the agenda. As long as time does not go back, the timer is never set behind the next reply
and the last stop is never in the future. So a poll hands out a reply that is due first, and if it
hands out none though it had a step for each stop, none is due.
-/

namespace PingTun

/-! ## Stops -/

namespace Clock

theorem roundUp_le (t : Nat) : roundUp t ≤ t + millisecond := by
  simp only [roundUp, millisecond]
  omega

/-- The number of stops on the way to a time that are still to come. -/
def stopsAhead (reached t : Nat) : Nat := (stops t).countP (reached < ·)

theorem stopsAhead_le (reached t : Nat) : stopsAhead reached t ≤ 6 :=
  List.countP_le_length

theorem le_nextStop {reached t : Nat} (h : reached ≤ t) : reached ≤ nextStop reached t := by
  unfold nextStop
  cases hfind : (stops t).find? (reached < ·) with
  | none => exact h
  | some stop =>
    have hlt : reached < stop := by simpa using List.find?_some hfind
    exact Nat.le_of_lt hlt

/-- A stop in front of the time itself leaves fewer stops ahead. -/
theorem stopsAhead_nextStop {reached t : Nat} (h : nextStop reached t < t) :
    stopsAhead (nextStop reached t) t < stopsAhead reached t := by
  unfold nextStop at h ⊢
  cases hfind : (stops t).find? (reached < ·) with
  | none => simp [hfind] at h
  | some stop =>
    have hlt : reached < stop := by simpa using List.find?_some hfind
    obtain ⟨before, after, hsplit⟩ := List.append_of_mem (List.mem_of_find?_eq_some hfind)
    have hmono (l : List Nat) : l.countP (stop < ·) ≤ l.countP (reached < ·) := by
      apply List.countP_mono_left
      intro other _ hother
      simp only [decide_eq_true_eq] at hother ⊢
      omega
    have hbefore := hmono before
    have hafter := hmono after
    simp only [Option.getD_some, stopsAhead, hsplit, List.countP_append, List.countP_cons,
      decide_eq_true_eq, hlt, Nat.lt_irrefl, if_true, if_false]
    omega

end Clock

namespace Outstanding

/-- An agenda keeps what is put into it. -/
theorem perm_insert (reply : Outstanding) (replies : List Outstanding) :
    (reply.insert replies).Perm (reply :: replies) := by
  induction replies with
  | nil => exact .refl _
  | cons next rest ih =>
    rw [insert]
    split
    · exact .refl _
    · exact (ih.cons next).trans (.swap ..)

/-- What is not behind the first of replies in the order in which they are due is behind none. -/
theorem le_due_of_head {replies : List Outstanding} {bound : Nat}
    (hsorted : replies.Pairwise (·.due ≤ ·.due))
    (hhead : ∀ reply ∈ replies.head?, bound ≤ reply.due) :
    ∀ reply ∈ replies, bound ≤ reply.due := by
  intro reply hreply
  cases hsorted with
  | nil => cases hreply
  | @cons next rest hfirst _ =>
    have hnext : bound ≤ next.due := hhead next rfl
    rcases List.mem_cons.mp hreply with rfl | hmem
    · exact hnext
    · exact Nat.le_trans hnext (hfirst reply hmem)

end Outstanding

namespace Simulation

/-! ## Outstanding replies -/

/-- The replies that are still to come. The overdue ones are due at the last stop. -/
def entries (s : Simulation) : List Outstanding :=
  s.overdue.map (fun address => ⟨s.reached, address⟩) ++ s.agenda.toList

/-- The stops and the agenda fit to the time. -/
structure Ordered (s : Simulation) (now : Nat) : Prop where
  reached_le : s.reached ≤ s.rang
  rang_le : s.rang ≤ now
  sorted : s.agenda.toList.Pairwise (·.due ≤ ·.due)
  reached_le_due : ∀ reply ∈ s.agenda.toList, s.reached ≤ reply.due

/-- The timer fits to the agenda, too: it is set unless there is nothing to come, and not behind
any reply. -/
structure Timely (s : Simulation) (now : Nat) : Prop extends Ordered s now where
  timer_le_due : ∀ reply ∈ s.agenda.toList, ∃ timer ∈ s.timer, timer.due ≤ reply.due
  reached_le_timer : ∀ timer ∈ s.timer, s.reached ≤ timer.due

variable {s : Simulation} {now : Nat}

theorem Ordered.later {next : Nat} (h : s.Ordered now) (hle : now ≤ next) : s.Ordered next :=
  { h with rang_le := Nat.le_trans h.rang_le hle }

theorem Timely.later {next : Nat} (h : s.Timely now) (hle : now ≤ next) : s.Timely next :=
  { h with toOrdered := h.toOrdered.later hle }

theorem timely_ofConfig (c : ProbeConfig) (now : Nat) : (ofConfig c).Timely now where
  reached_le := Nat.le_refl 0
  rang_le := Nat.zero_le now
  sorted := .nil
  reached_le_due := by
    intro reply hreply
    cases hreply
  timer_le_due := by
    intro reply hreply
    cases hreply
  reached_le_timer := by
    intro timer htimer
    cases htimer

/-- Two simulations of one configuration. -/
def SameSettings (s t : Simulation) : Prop := t.delay = s.delay ∧ t.unreachable = s.unreachable

theorem SameSettings.trans {t u : Simulation} (h : s.SameSettings t) (hlater : t.SameSettings u) :
    s.SameSettings u :=
  ⟨hlater.1.trans h.1, hlater.2.trans h.2⟩

/-! ## Requests -/

theorem Ordered.dueTime_eq (h : s.Ordered now) :
    s.dueTime now = Clock.roundUp (now + Clock.ofMilliseconds s.delay) := by
  have hround := Clock.le_roundUp (now + Clock.ofMilliseconds s.delay)
  have hreached := h.reached_le
  have hrang := h.rang_le
  unfold dueTime
  omega

theorem Ordered.le_dueTime (h : s.Ordered now) : now ≤ s.dueTime now := by
  rw [h.dueTime_eq]
  exact Nat.le_trans (Nat.le_add_right ..) (Clock.le_roundUp _)

theorem Ordered.reached_le_dueTime (h : s.Ordered now) : s.reached ≤ s.dueTime now :=
  Nat.le_trans h.reached_le (Nat.le_trans h.rang_le h.le_dueTime)

/-- The new timer is not behind the new reply, nor behind any that the old one was set for. -/
theorem timerWith_le (s : Simulation) (due : Nat) :
    (s.timerWith due).due ≤ due ∧ ∀ timer ∈ s.timer, (s.timerWith due).due ≤ timer.due := by
  unfold timerWith
  split
  · rename_i htimer
    simp [htimer]
  · rename_i timer htimer
    split
    · rename_i hlt
      simp only [htimer, Option.mem_def, Option.some.injEq, forall_eq']
      omega
    · rename_i hle
      simp only [htimer, Option.mem_def, Option.some.injEq, forall_eq']
      omega

theorem Timely.reached_le_timerWith (h : s.Timely now) {due : Nat} (hdue : s.reached ≤ due) :
    s.reached ≤ (s.timerWith due).due := by
  unfold timerWith
  split
  · exact hdue
  · rename_i timer htimer
    split
    · exact hdue
    · exact h.reached_le_timer timer htimer

theorem schedule_of_contains {address : Address} (h : s.unreachable.contains address = true) :
    (s.schedule now address).1 = s := by
  simp [schedule, h]

/-- The reply to a request that is answered is one more to come. -/
theorem Timely.entries_schedule (h : s.Timely now) {address : Address}
    (hreach : s.unreachable.contains address = false) :
    (s.schedule now address).1.entries.Perm (⟨s.dueTime now, address⟩ :: s.entries) := by
  simp only [schedule, hreach, Bool.false_eq_true, if_false]
  split
  · rename_i hle
    have heq : s.reached = s.dueTime now := Nat.le_antisymm h.reached_le_dueTime hle
    rw [← heq]
    exact .refl _
  · simp only [entries, Agenda.toList_insert]
    have hinsert := Outstanding.perm_insert ⟨s.dueTime now, address⟩ s.agenda.toList
    exact (hinsert.append_left _).trans List.perm_middle

theorem sameSettings_schedule (s : Simulation) (now : Nat) (address : Address) :
    s.SameSettings (s.schedule now address).1 := by
  unfold Simulation.schedule
  split
  · exact ⟨rfl, rfl⟩
  · dsimp only
    split <;> exact ⟨rfl, rfl⟩

theorem Timely.schedule (h : s.Timely now) (address : Address) :
    (s.schedule now address).1.Timely now := by
  cases hreach : s.unreachable.contains address with
  | true => rwa [schedule_of_contains hreach]
  | false =>
    obtain ⟨hnew, hold⟩ := s.timerWith_le (s.dueTime now)
    have htimer (reply : Outstanding) (hreply : reply ∈ s.agenda.toList) :
        (s.timerWith (s.dueTime now)).due ≤ reply.due := by
      obtain ⟨timer, hmem, hle⟩ := h.timer_le_due reply hreply
      exact Nat.le_trans (hold timer hmem) hle
    have hreached := h.reached_le_timerWith h.reached_le_dueTime
    simp only [Simulation.schedule, hreach, Bool.false_eq_true, if_false]
    split
    · exact { h with
        timer_le_due := fun reply hreply => ⟨_, rfl, htimer reply hreply⟩
        reached_le_timer := by
          rintro timer ⟨rfl⟩
          exact hreached }
    · exact { h with
        sorted := by
          rw [Agenda.toList_insert]
          exact Outstanding.pairwise_insert _ h.sorted
        reached_le_due := by
          intro reply hreply
          rw [Agenda.toList_insert, Outstanding.mem_insert] at hreply
          rcases hreply with rfl | hmem
          · exact h.reached_le_dueTime
          · exact h.reached_le_due reply hmem
        timer_le_due := by
          intro reply hreply
          rw [Agenda.toList_insert, Outstanding.mem_insert] at hreply
          refine ⟨_, rfl, ?_⟩
          rcases hreply with rfl | hmem
          · exact hnew
          · exact htimer reply hmem
        reached_le_timer := by
          rintro timer ⟨rfl⟩
          exact hreached }

/-! ## Timers -/

theorem Ordered.setTimer (h : s.Ordered now) : s.setTimer.Timely now where
  toOrdered := ⟨h.reached_le, h.rang_le, h.sorted, h.reached_le_due⟩
  timer_le_due := by
    intro reply hreply
    change reply ∈ s.agenda.toList at hreply
    cases hhead : s.agenda.toList.head? with
    | none =>
      rw [List.head?_eq_none_iff.mp hhead] at hreply
      cases hreply
    | some next =>
      have hnext : s.agenda.next? = some next := by rw [← Agenda.head?_toList, hhead]
      refine ⟨{ due := Clock.nextStop s.reached next.due }, ?_, ?_⟩
      · simp [Simulation.setTimer, hnext]
      · apply Outstanding.le_due_of_head h.sorted _ reply hreply
        rw [hhead]
        rintro _ ⟨rfl⟩
        exact Clock.nextStop_le ..
  reached_le_timer := by
    intro timer htimer
    simp only [Simulation.setTimer, Option.mem_def, Option.map_eq_some_iff] at htimer
    obtain ⟨next, hnext, rfl⟩ := htimer
    rw [← Agenda.head?_toList] at hnext
    exact Clock.le_nextStop (h.reached_le_due next (List.mem_of_mem_head? hnext))

/-- What is left when the timer that is up had been set to a stop in front of the next reply. -/
def halted (s : Simulation) : Simulation :=
  { s with rang := s.rings, reached := s.rings }.setTimer

@[simp] theorem agenda_halted (s : Simulation) : s.halted.agenda = s.agenda := rfl

@[simp] theorem reached_halted (s : Simulation) : s.halted.reached = s.rings := rfl

@[simp] theorem overdue_halted (s : Simulation) : s.halted.overdue = s.overdue := rfl

/-- A timer that is up lets the next reply out if it had been set to a time when that is due. -/
theorem ring_cases (s : Simulation) :
    (∃ reply rest, s.agenda.toList = reply :: rest ∧ reply.due ≤ s.rings ∧
      s.ring = (some reply.address,
        { s with
          agenda := s.agenda.tail
          rang := s.rings
          reached := max s.reached (Clock.roundDown (Clock.stopUnit 1) reply.due) }.setTimer)) ∨
    ((∀ reply ∈ s.agenda.toList.head?, s.rings < reply.due) ∧
      s.ring = (none, s.halted)) := by
  unfold ring
  rw [← Agenda.head?_toList]
  cases hlist : s.agenda.toList with
  | nil => exact .inr ⟨by simp, rfl⟩
  | cons reply rest =>
    by_cases hdue : reply.due ≤ s.rings
    · exact .inl ⟨reply, rest, rfl, hdue, by simp [Option.filter, hdue]⟩
    · exact .inr ⟨by simpa using hdue, by simp [Option.filter, hdue, halted]⟩

/-- The timer that is up is not in the future, and not in front of the last stop. -/
theorem Timely.rings_le (h : s.Timely now) (htimer : ∀ timer ∈ s.timer, timer.due ≤ now) :
    s.reached ≤ s.rings ∧ s.rings ≤ now := by
  unfold rings
  cases hs : s.timer with
  | none => exact ⟨h.reached_le, h.rang_le⟩
  | some timer => exact ⟨h.reached_le_timer timer hs, htimer timer hs⟩

/-- What a poll does to the replies that are still to come: it hands out one that is due, and
that no other is due before, or nothing. -/
inductive Served (now : Nat) (s : Simulation) : Option Address → Simulation → Prop
  | reply {reply : Outstanding} {t : Simulation} (due : reply.due ≤ now)
    (perm : s.entries.Perm (reply :: t.entries))
    (first : ∀ other ∈ t.entries, reply.due ≤ other.due) (timely : t.Timely now)
    (settings : s.SameSettings t) : Served now s (some reply.address) t
  | nothing {t : Simulation} (entries : t.entries = s.entries) (timely : t.Timely now)
    (settings : s.SameSettings t) : Served now s none t

/-- A timer that is up serves the replies of the agenda if there are no others. -/
theorem Timely.served_ring (h : s.Timely now) (hoverdue : s.overdue = [])
    (htimer : ∀ timer ∈ s.timer, timer.due ≤ now) : Served now s s.ring.1 s.ring.2 := by
  obtain ⟨hreached, hnow⟩ := h.rings_le htimer
  rcases s.ring_cases with ⟨reply, rest, hlist, hdue, hring⟩ | ⟨hlate, hring⟩
  · rw [hring]
    have hsorted := h.sorted
    rw [hlist] at hsorted
    have hfirst (other : Outstanding) (hother : other ∈ rest) : reply.due ≤ other.due :=
      List.rel_of_pairwise_cons hsorted hother
    have htail : s.agenda.tail.toList = rest := by rw [Agenda.toList_tail, hlist]; rfl
    have hstop := Clock.roundDown_le (Clock.stopUnit 1) reply.due
    have hreply := h.reached_le_due reply (by simp [hlist])
    refine .reply (Nat.le_trans hdue hnow) ?_ ?_ (Ordered.setTimer ?_) ⟨rfl, rfl⟩
    · simp only [entries, Simulation.setTimer, hoverdue, hlist, htail]
      exact .refl _
    · simpa only [entries, Simulation.setTimer, hoverdue, htail, List.map_nil, List.nil_append]
        using hfirst
    · exact {
        reached_le := by dsimp only; omega
        rang_le := hnow
        sorted := by
          dsimp only
          rw [htail]
          exact hsorted.tail
        reached_le_due := by
          intro other hother
          dsimp only at hother ⊢
          rw [htail] at hother
          have := hfirst other hother
          omega }
  · rw [hring]
    refine .nothing (by simp [entries, hoverdue]) (Ordered.setTimer ?_) ⟨rfl, rfl⟩
    · exact {
        reached_le := Nat.le_refl _
        rang_le := hnow
        sorted := h.sorted
        reached_le_due := by
          apply Outstanding.le_due_of_head h.sorted
          intro next hnext
          exact Nat.le_of_lt (hlate next hnext) }

theorem Served.trans {t u : Simulation} {reply : Option Address} (h : Served now s none t)
    (hlater : Served now t reply u) : Served now s reply u := by
  cases h with
  | nothing hentries _ hsame =>
    cases hlater with
    | reply due perm first timely settings =>
      exact .reply due (hentries ▸ perm) first timely (hsame.trans settings)
    | nothing hlater timely settings =>
      exact .nothing (hlater.trans hentries) timely (hsame.trans settings)

theorem overdue_ring (s : Simulation) : s.ring.2.overdue = s.overdue := by
  rcases s.ring_cases with ⟨reply, rest, -, -, hring⟩ | ⟨-, hring⟩ <;> rw [hring] <;> rfl

/-! ## Polls -/

/-- A timer that is up may be followed by whatever serves the replies when it hands out none. -/
theorem Timely.served_ring_or {further : Simulation → Option Address × Nat × Simulation}
    (h : s.Timely now) (hoverdue : s.overdue = []) (htimer : ∀ timer ∈ s.timer, timer.due ≤ now)
    (hfurther : ∀ t : Simulation, t.Timely now → t.overdue = [] →
      Served now t (further t).1 (further t).2.2) (steps : Nat) :
    let answer := match s.ring with
      | (some address, t) => (some address, steps, t)
      | (none, t) => further t
    Served now s answer.1 answer.2.2 := by
  have hring := h.served_ring hoverdue htimer
  have hnone := s.overdue_ring
  cases hanswer : s.ring with
  | mk reply t =>
    rw [hanswer] at hring hnone
    cases reply with
    | some address => exact hring
    | none =>
      cases hring with
      | nothing hentries timely settings =>
        exact (Served.nothing hentries timely settings).trans
          (hfurther t timely (hnone.trans hoverdue))

theorem Timely.served_walk (h : s.Timely now) (hoverdue : s.overdue = []) (steps : Nat) :
    Served now s (s.walk now steps).1 (s.walk now steps).2.2 := by
  induction steps generalizing s with
  | zero => exact .nothing rfl h ⟨rfl, rfl⟩
  | succ steps ih =>
    rw [walk]
    cases htimer : s.timer with
    | none => exact .nothing rfl h ⟨rfl, rfl⟩
    | some timer =>
      dsimp only
      split
      · -- To have been asked makes no difference to when a timer is up.
        refine .nothing rfl { h with timer_le_due := ?_, reached_le_timer := ?_ } ⟨rfl, rfl⟩
        · intro reply hreply
          obtain ⟨_, hmem, hle⟩ := h.timer_le_due reply hreply
          cases htimer.symm.trans hmem
          exact ⟨_, rfl, hle⟩
        · rintro _ ⟨rfl⟩
          exact h.reached_le_timer timer htimer
      · rename_i hup
        refine h.served_ring_or hoverdue ?_ (fun t timely hnone => ih timely hnone) steps
        intro _ hmem
        cases htimer.symm.trans hmem
        exact Nat.le_of_not_lt hup

/-- Whatever steps a poll has, it only hands out what is due, in the order in which it is due. -/
theorem Timely.served_poll (h : s.Timely now) (steps : Nat) :
    Served now s (s.poll now steps).1 (s.poll now steps).2.2 := by
  unfold poll
  cases hoverdue : s.overdue with
  | cons address rest =>
    refine @Served.reply now s ⟨s.reached, address⟩ _ ?_ ?_ ?_ { h with } ⟨rfl, rfl⟩
    · exact Nat.le_trans h.reached_le h.rang_le
    · simp only [entries, hoverdue]
      exact .refl _
    · intro other hother
      simp only [entries, List.mem_append, List.mem_map] at hother
      rcases hother with ⟨_, _, rfl⟩ | hmem
      · exact Nat.le_refl _
      · exact h.reached_le_due other hmem
  | nil =>
    dsimp only
    split
    · rename_i hup
      refine h.served_ring_or hoverdue ?_ (fun t timely hnone => timely.served_walk hnone steps)
        steps
      intro timer hmem
      rw [Option.mem_def.mp hmem] at hup
      simp only [Option.all_some, Bool.and_eq_true, decide_eq_true_eq] at hup
      exact hup.2
    · exact h.served_walk hoverdue steps

/-! ## Polls in vain -/

/-- No reply of an agenda is due in front of its first one. -/
theorem Ordered.lt_due_of_head (h : s.Ordered now) {time : Nat}
    (hhead : ∀ reply ∈ s.agenda.toList.head?, time < reply.due) :
    ∀ reply ∈ s.agenda.toList, time < reply.due :=
  Outstanding.le_due_of_head h.sorted hhead

/-- Whether the timer is set for the first stop on the way to the next reply. -/
def Wound (s : Simulation) : Prop :=
  s.timer = s.agenda.toList.head?.map fun reply => { due := Clock.nextStop s.reached reply.due }

/-- The number of stops that are still ahead on the way to the next reply. -/
def ahead (s : Simulation) : Nat :=
  (s.agenda.toList.head?.map fun reply => Clock.stopsAhead s.reached reply.due).getD 0

theorem ahead_of_head {reply : Outstanding} (h : s.agenda.toList.head? = some reply) :
    s.ahead = Clock.stopsAhead s.reached reply.due := by
  rw [ahead, h, Option.map_some, Option.getD_some]

theorem ahead_le (s : Simulation) : s.ahead ≤ 6 := by
  cases hhead : s.agenda.toList.head? with
  | none => simp [ahead, hhead]
  | some reply =>
    rw [ahead_of_head hhead]
    exact Clock.stopsAhead_le s.reached reply.due

theorem wound_halted (s : Simulation) : s.halted.Wound := by
  simp [Wound, halted, setTimer]

/-- What a poll in vain leaves if nothing was due: the next reply is due later, and if there is a
timer it is set for later. -/
structure Early (now : Nat) (s t : Simulation) : Prop where
  lt_due : ∀ reply ∈ s.agenda.toList.head?, now < reply.due
  lt_timer : ∀ timer ∈ t.timer, now < timer.due

/-- With a step for each stop that is ahead, a walk in vain came too early for the next reply. -/
theorem Wound.early_of_walk {steps : Nat} (h : s.Wound) (hsteps : s.ahead < steps)
    (hnone : (s.walk now steps).1 = none) : Early now s (s.walk now steps).2.2 := by
  induction steps generalizing s with
  | zero => exact absurd hsteps (Nat.not_lt_zero _)
  | succ steps ih =>
    cases hhead : s.agenda.toList.head? with
    | none =>
      have htimer : s.timer = none := by rw [h, hhead, Option.map_none]
      rw [walk, htimer]
      exact ⟨by simp [hhead], by simp [htimer]⟩
    | some reply =>
      have htimer : s.timer = some { due := Clock.nextStop s.reached reply.due } := by
        rw [h, hhead, Option.map_some]
      have hrings : s.rings = Clock.nextStop s.reached reply.due := by
        rw [rings, htimer, Option.map_some, Option.getD_some]
      rw [walk, htimer] at hnone ⊢
      dsimp only at hnone ⊢
      split at hnone
      · rename_i hlt
        rw [if_pos hlt]
        refine ⟨?_, by simpa using hlt⟩
        rw [hhead]
        rintro _ ⟨rfl⟩
        exact Nat.lt_of_lt_of_le hlt (Clock.nextStop_le ..)
      · rename_i hup
        rw [if_neg hup]
        rcases s.ring_cases with ⟨_, _, _, _, hring⟩ | ⟨hlate, hring⟩
        · rw [hring] at hnone
          cases hnone
        · rw [hring] at hnone ⊢
          have hlt : Clock.nextStop s.reached reply.due < reply.due := by
            rw [← hrings]
            exact hlate reply hhead
          have hfewer := Clock.stopsAhead_nextStop hlt
          have hahead : s.halted.ahead < steps := by
            rw [ahead_of_head hhead] at hsteps
            rw [ahead_of_head (s := s.halted) hhead, reached_halted, hrings]
            omega
          obtain ⟨hdue, htimer⟩ := ih s.wound_halted hahead hnone
          exact ⟨hdue, htimer⟩

/-- The same for any timer, which takes one step more. -/
theorem Timely.early_of_walk {steps : Nat} (h : s.Timely now) (hsteps : 7 < steps)
    (hnone : (s.walk now steps).1 = none) : Early now s (s.walk now steps).2.2 := by
  obtain ⟨steps, rfl⟩ : ∃ fewer, steps = fewer + 1 := ⟨steps - 1, by omega⟩
  rw [walk] at hnone ⊢
  cases htimer : s.timer with
  | none =>
    refine ⟨?_, by simp [htimer]⟩
    intro reply hreply
    obtain ⟨timer, hmem, -⟩ := h.timer_le_due reply (List.mem_of_mem_head? hreply)
    rw [htimer] at hmem
    cases hmem
  | some timer =>
    rw [htimer] at hnone
    dsimp only at hnone ⊢
    split at hnone
    · rename_i hlt
      rw [if_pos hlt]
      refine ⟨?_, by simpa using hlt⟩
      intro reply hreply
      obtain ⟨_, hmem, hle⟩ := h.timer_le_due reply (List.mem_of_mem_head? hreply)
      cases htimer.symm.trans hmem
      exact Nat.lt_of_lt_of_le hlt hle
    · rename_i hup
      rw [if_neg hup]
      rcases s.ring_cases with ⟨_, _, _, _, hring⟩ | ⟨-, hring⟩
      · rw [hring] at hnone
        cases hnone
      · rw [hring] at hnone ⊢
        have := s.halted.ahead_le
        obtain ⟨hdue, htimer⟩ := s.wound_halted.early_of_walk (by omega) hnone
        exact ⟨hdue, htimer⟩

/-- A poll in vain that had a step for each stop came too early for any reply. -/
theorem Timely.early_of_poll {steps : Nat} (h : s.Timely now) (hsteps : 7 < steps)
    (hnone : (s.poll now steps).1 = none) :
    s.overdue = [] ∧ Early now s (s.poll now steps).2.2 := by
  unfold poll at hnone ⊢
  cases hoverdue : s.overdue with
  | cons address rest =>
    rw [hoverdue] at hnone
    cases hnone
  | nil =>
    refine ⟨rfl, ?_⟩
    rw [hoverdue] at hnone
    dsimp only at hnone ⊢
    split at hnone
    · rename_i hup
      rw [if_pos hup]
      rcases s.ring_cases with ⟨_, _, _, _, hring⟩ | ⟨-, hring⟩
      · rw [hring] at hnone
        cases hnone
      · rw [hring] at hnone ⊢
        have := s.halted.ahead_le
        obtain ⟨hdue, htimer⟩ := s.wound_halted.early_of_walk (by omega) hnone
        exact ⟨hdue, htimer⟩
    · rename_i hup
      rw [if_neg hup]
      exact h.early_of_walk hsteps hnone

/-- A poll that hands out nothing though it had a step for each stop leaves nothing that is due. -/
theorem Timely.lt_due_of_poll {steps : Nat} (h : s.Timely now) (hsteps : 7 < steps)
    (hnone : (s.poll now steps).1 = none) : ∀ reply ∈ s.entries, now < reply.due := by
  obtain ⟨hoverdue, hearly⟩ := h.early_of_poll hsteps hnone
  simp only [entries, hoverdue, List.map_nil, List.nil_append]
  exact h.toOrdered.lt_due_of_head hearly.lt_due

end Simulation

end PingTun
