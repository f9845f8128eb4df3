-- SUMMARY: A simulated probe keeps exactly the promises that its requests make, each when it is due.
import Mathlib.Data.List.Induction
import PingTun.Proofs.Probe.Promises
import PingTun.Proofs.Probe.Sends
import PingTun.Proofs.Probe.Timers
import PingTun.Proofs.Probe.Waits

/-! # Simulated probes

The replies that a simulation still has to hand out are those of the open promises. Sends, polls,
waits and the passing of time all keep this, in any order, so that every trace of a simulated probe
has an account.
-/

namespace PingTun.Probe

/-! ## Polls -/

/-- A probe that simulates the replies of a configuration, with these still to come. -/
def Simulates (c : ProbeConfig) (time : Nat) (p : Probe) (coming : List Outstanding) : Prop :=
  ∃ s : Simulation, p.backend = .simulated s ∧ (Simulation.ofConfig c).SameSettings s ∧
    s.Timely time ∧ s.entries.Perm coming

namespace Simulates

variable {c : ProbeConfig} {time steps left : Nat} {p q : Probe} {coming : List Outstanding}
  {events : List Event}

theorem later {next : Nat} (h : Simulates c time p coming) (hle : time ≤ next) :
    Simulates c next p coming := by
  obtain ⟨s, hp, hsettings, htimely, hperm⟩ := h
  exact ⟨s, hp, hsettings, htimely.later hle, hperm⟩

/-- A poll in vain leaves all replies to come. -/
theorem poll_none (h : Simulates c time p coming)
    (hpoll : p.pollWithin time steps = (none, left, q, events)) : Simulates c time q coming := by
  obtain ⟨s, hp, hsettings, htimely, hperm⟩ := h
  have hserved := htimely.served_poll steps
  simp only [pollWithin, hp] at hpoll
  generalize s.poll time steps = answer at hserved hpoll
  obtain ⟨reply, rest, t⟩ := answer
  cases hpoll
  cases hserved with
  | nothing hentries htimely hsame =>
    exact ⟨t, rfl, hsettings.trans hsame, htimely, hentries ▸ hperm⟩

/-- A poll takes out a reply that is due, and that no other is due before. -/
theorem poll_some {address : Address} (h : Simulates c time p coming)
    (hpoll : p.pollWithin time steps = (some address, left, q, events)) :
    ∃ reply rest, coming.Perm (reply :: rest) ∧ reply.address = address ∧ reply.due ≤ time ∧
      (∀ other ∈ rest, reply.due ≤ other.due) ∧ Simulates c time q rest := by
  obtain ⟨s, hp, hsettings, htimely, hperm⟩ := h
  have hserved := htimely.served_poll steps
  simp only [pollWithin, hp] at hpoll
  generalize s.poll time steps = answer at hserved hpoll
  obtain ⟨reply, rest, t⟩ := answer
  cases hpoll
  cases hserved with
  | reply hdue hentries hfirst htimely hsame =>
    exact ⟨_, t.entries, hperm.symm.trans hentries, rfl, hdue, hfirst, t, rfl,
      hsettings.trans hsame, htimely, .refl _⟩

/-- In a turn of its own a poll is in vain only if no reply is due. -/
theorem lt_due (h : Simulates c time p coming)
    (hpoll : p.pollWithin time EventLoop.stepsPerTurn = (none, left, q, events)) :
    ∀ reply ∈ coming, time < reply.due := by
  obtain ⟨s, hp, -, htimely, hperm⟩ := h
  simp only [pollWithin, hp, Prod.mk.injEq] at hpoll
  intro reply hreply
  exact htimely.lt_due_of_poll (by decide) hpoll.1 reply (hperm.mem_iff.mpr hreply)

theorem idle {start : Nat} (h : Simulates c start p coming) (hidle : Idle start p time q) :
    Simulates c time q coming := by
  induction hidle with
  | refl => exact h
  | later _ hle ih => exact (ih h).later hle
  | poll _ hpoll ih => exact (ih h).poll_none hpoll

/-- A ping that fits into a datagram is sent, and its reply is one more to come if its address is
not in the network that never replies. -/
theorem sendAt (h : Simulates c time p coming) (ping : Ping)
    (hfits : ping.payloadSize.toNat ≤ 65507) (now : Echo.Instant) (host : Host) :
    ∃ q event, p.sendAt time now ping host = ((true, q, [event]), host) ∧
      q.nextSequence = p.nextSequence + 1 ∧ q.arrive [] = q ∧
      Simulates c time q
        (if c.unreachable.Covers ping.address then coming
          else c.outstanding ⟨time, ping.address⟩ :: coming) := by
  obtain ⟨s, hp, hsettings, htimely, hperm⟩ := h
  refine ⟨_, _, sendAt_simulated hp hfits, rfl, rfl, ?_⟩
  have hcovers : s.unreachable.contains ping.address = true ↔
      c.unreachable.Covers ping.address := by
    rw [hsettings.2]
    exact Network.contains_iff_covers ..
  cases hreach : s.unreachable.contains ping.address with
  | true =>
    rw [if_pos (hcovers.mp hreach), Simulation.schedule_of_contains hreach]
    exact ⟨s, rfl, hsettings, htimely, hperm⟩
  | false =>
    have hdue : s.dueTime time = c.dueTime ⟨time, ping.address⟩ := by
      rw [htimely.toOrdered.dueTime_eq, hsettings.1]
      rfl
    rw [if_neg (mt hcovers.mpr (Bool.eq_false_iff.mp hreach))]
    refine ⟨_, rfl, hsettings.trans (Simulation.sameSettings_schedule ..),
      htimely.schedule ping.address, (htimely.entries_schedule hreach).trans ?_⟩
    rw [hdue]
    exact hperm.cons _

end Simulates

/-! ## Steps -/

/-- A trace with its account, and the simulated probe that it leads to: what is still to come are
the replies of the open promises, and no promise was kept too early. -/
structure Faithful (c : ProbeConfig) (s : Scene) (log : List Moment)
    (kept owed : List Promise) : Prop extends Account c log kept owed where
  simulates : Simulates c s.time s.probe (owed.map c.outstanding)
  kept_le : ∀ promise ∈ kept, c.dueTime promise ≤ s.time
  sent_le : ∀ promise ∈ owed, promise.sent ≤ s.time

namespace Faithful

variable {c : ProbeConfig} {s : Scene} {log : List Moment} {kept owed : List Promise}

/-- A step that makes and keeps no promise. -/
theorem pass {m : Moment} (h : Faithful c s log kept owed) (hpromise : m.promise? c = none)
    (hreply : m.reply? = none) (htime : s.time ≤ m.after.time)
    (hsimulates : Simulates c m.after.time m.after.probe (owed.map c.outstanding)) :
    Faithful c m.after (log ++ [m]) kept owed where
  toAccount := h.toAccount.pass hpromise hreply
  simulates := hsimulates
  kept_le := fun promise hmem => Nat.le_trans (h.kept_le promise hmem) htime
  sent_le := fun promise hmem => Nat.le_trans (h.sent_le promise hmem) htime

/-- A step that ends with a poll that finds a reply. -/
theorem found {m : Moment} {p : Probe} {steps left : Nat} {address : Address}
    {events : List Event} (h : Faithful c s log kept owed) (hpromise : m.promise? c = none)
    (hreply : m.outcome = .yielded address) (htime : s.time ≤ m.after.time)
    (hsimulates : Simulates c m.after.time p (owed.map c.outstanding))
    (hpoll : p.pollWithin m.after.time steps = (some address, left, m.after.probe, events)) :
    ∃ promise rest, owed.Perm (promise :: rest) ∧
      Faithful c m.after (log ++ [m]) (kept ++ [promise]) rest := by
  obtain ⟨reply, rest, hperm, haddress, hdue, hfirst, hafter⟩ := hsimulates.poll_some hpoll
  obtain ⟨promise, hmem, rfl⟩ := List.mem_map.mp (hperm.mem_iff.mpr List.mem_cons_self)
  have howed : owed.Perm (promise :: owed.erase promise) := List.perm_cons_erase hmem
  have hrest : rest.Perm ((owed.erase promise).map c.outstanding) :=
    (hperm.symm.trans (howed.map c.outstanding)).cons_inv
  refine ⟨promise, owed.erase promise, howed, ?_, ?_, ?_, ?_⟩
  · have hgiven : m.reply? = some (m.time, address) := by
      simp [Moment.reply?, hreply, Outcome.reply?]
    refine h.toAccount.keep howed hpromise hgiven ?_ ?_
    · exact ⟨haddress.symm, c.le_dueTime promise, hdue⟩
    · intro other hother
      exact hfirst (c.outstanding other)
        (hrest.mem_iff.mpr (List.mem_map_of_mem hother))
  · obtain ⟨t, ht, hsettings, htimely, hentries⟩ := hafter
    exact ⟨t, ht, hsettings, htimely, hentries.trans hrest⟩
  · intro other hother
    rcases List.mem_append.mp hother with hkept | hnew
    · exact Nat.le_trans (h.kept_le other hkept) htime
    · rw [List.mem_singleton.mp hnew]
      exact hdue
  · intro other hother
    exact Nat.le_trans (h.sent_le other (List.mem_of_mem_erase hother)) htime

/-- What it comes to that a step looks for a reply: it is in vain, with no open promise due, or a
promise is kept. -/
inductive Looked (c : ProbeConfig) (log : List Moment) (kept owed : List Promise) (m : Moment) :
    Prop
  | inVain (outcome : m.outcome = .pending) (after : Faithful c m.after (log ++ [m]) kept owed)
    (late : ∀ promise ∈ owed, m.time < c.dueTime promise)
  | found {promise : Promise} {rest : List Promise} (outcome : m.outcome ≠ .pending)
    (perm : owed.Perm (promise :: rest))
    (after : Faithful c m.after (log ++ [m]) (kept ++ [promise]) rest)

/-- A poll looks for a reply in a turn of its own. -/
theorem poll (h : Faithful c s log kept owed) : Looked c log kept owed (s.moment .poll) := by
  cases hpoll : s.probe.pollWithin s.time EventLoop.stepsPerTurn with
  | mk reply answer =>
    obtain ⟨left, q, events⟩ := answer
    rw [Scene.moment_poll hpoll]
    cases reply with
    | none =>
      refine .inVain rfl ?_ ?_
      · exact h.pass rfl rfl (Nat.le_refl _) (h.simulates.poll_none hpoll)
      · intro promise hmem
        exact h.simulates.lt_due hpoll _ (List.mem_map_of_mem hmem)
    | some address =>
      obtain ⟨promise, rest, howed, hafter⟩ :=
        h.found (m := ⟨s, .poll, .yielded address, events, { s with probe := q }⟩) rfl rfl
          (Nat.le_refl _) h.simulates hpoll
      exact .found nofun howed hafter

/-- A wait looks for a reply until it is given up, at last in a turn of its own. -/
theorem wait (h : Faithful c s log kept owed) (duration : Nat) :
    Looked c log kept owed (s.moment (.wait duration)) := by
  have hle : s.time ≤ s.time + duration := Nat.le_add_right ..
  cases hnext : s.probe.next s.time (s.time + duration) with
  | mk reply answer =>
    obtain ⟨q, events⟩ := answer
    cases reply with
    | none =>
      rw [Scene.moment_wait_none hnext]
      obtain ⟨p, left, further, hidle, hpoll⟩ := idle_of_next_none hle hnext
      have hsimulates := h.simulates.idle hidle
      refine .inVain rfl ?_ ?_
      · exact h.pass rfl rfl hle (hsimulates.poll_none hpoll)
      · intro promise hmem
        exact hsimulates.lt_due hpoll _ (List.mem_map_of_mem hmem)
    | some found =>
      obtain ⟨time, address⟩ := found
      rw [Scene.moment_wait_some hnext]
      obtain ⟨-, p, steps, left, further, hidle, hpoll⟩ := idle_of_next_some hle hnext
      obtain ⟨promise, rest, howed, hafter⟩ :=
        h.found (m := ⟨s, .wait duration, .yielded address, events, ⟨time, s.host, q⟩⟩) rfl rfl
          hidle.le (h.simulates.idle hidle) hpoll
      exact .found nofun howed hafter

/-- A look that comes to nothing leaves no open promise that is due. -/
theorem Looked.exists_after {m : Moment} (h : Looked c log kept owed m) :
    ∃ kept' owed', Faithful c m.after (log ++ [m]) kept' owed' ∧
      (m.outcome = .pending → ∀ promise ∈ owed', m.time < c.dueTime promise) := by
  cases h with
  | inVain _ hafter hlate => exact ⟨kept, owed, hafter, fun _ => hlate⟩
  | found hfound _ hafter => exact ⟨_, _, hafter, fun hpending => absurd hpending hfound⟩

/-- A ping makes a promise exactly if it is answered. -/
theorem send (h : Faithful c s log kept owed) (now : Echo.Instant) (ping : Ping) :
    let m := s.moment (.send now ping)
    Faithful c m.after (log ++ [m]) kept owed ∨
      ∃ promise, Faithful c m.after (log ++ [m]) kept (promise :: owed) := by
  by_cases hfits : ping.payloadSize.toNat ≤ 65507
  · obtain ⟨q, event, hsend, -, -, hcoming⟩ := h.simulates.sendAt ping hfits now s.host
    rw [Scene.moment_send hsend]
    by_cases hcovers : c.unreachable.Covers ping.address
    · rw [if_pos hcovers] at hcoming
      exact .inl (h.pass (if_neg fun hanswers => hanswers.2 hcovers) rfl (Nat.le_refl _) hcoming)
    · rw [if_neg hcovers] at hcoming
      refine .inr ⟨⟨s.time, ping.address⟩, ?_, hcoming, h.kept_le, ?_⟩
      · refine h.toAccount.promise (if_pos ⟨hfits, hcovers⟩) rfl ?_
        intro other hother
        calc
          c.dueTime other ≤ s.time := h.kept_le other hother
          _ ≤ s.time + c.replyTime := Nat.le_add_right ..
          _ ≤ c.dueTime ⟨s.time, ping.address⟩ := c.le_dueTime ⟨s.time, ping.address⟩
      · intro other hother
        rcases List.mem_cons.mp hother with rfl | hmem
        · exact Nat.le_refl _
        · exact h.sent_le other hmem
  · obtain ⟨simulation, hp, -⟩ := h.simulates
    have hstate : s.probe.state ≠ .socketFailed := by simp [state, hp]
    rw [Scene.moment_send (sendAt_of_lt hstate (Nat.lt_of_not_le hfits))]
    exact .inl (h.pass (if_neg fun hanswers => hfits hanswers.1) rfl (Nat.le_refl _) h.simulates)

/-- Every step keeps the account, and ends in vain only with no open promise due. -/
theorem moment (h : Faithful c s log kept owed) (step : Step) :
    ∃ kept' owed', Faithful c (s.moment step).after (log ++ [s.moment step]) kept' owed' ∧
      ((s.moment step).outcome = .pending →
        ∀ promise ∈ owed', (s.moment step).time < c.dueTime promise) := by
  cases step with
  | send now ping =>
    rcases h.send now ping with hafter | ⟨promise, hafter⟩
    · exact ⟨kept, owed, hafter, nofun⟩
    · exact ⟨kept, promise :: owed, hafter, nofun⟩
  | advance duration =>
    have hle : s.time ≤ s.time + duration := Nat.le_add_right ..
    exact ⟨kept, owed, h.pass rfl rfl hle (h.simulates.later hle), nofun⟩
  | arrive arrivals =>
    obtain ⟨simulation, hp, -⟩ := h.simulates
    have hsame : s.probe.arrive arrivals = s.probe := by simp [arrive, hp]
    refine ⟨kept, owed, h.pass rfl rfl (Nat.le_refl _) ?_, nofun⟩
    change Simulates c s.time (s.probe.arrive arrivals) _
    rw [hsame]
    exact h.simulates
  | poll => exact h.poll.exists_after
  | wait duration => exact (h.wait duration).exists_after

/-- Polls enough keep all open promises if they are due. -/
theorem settle (h : Faithful c s log kept owed)
    (hdue : ∀ promise ∈ owed, c.dueTime promise ≤ s.time) {polls : Nat}
    (hpolls : owed.length ≤ polls) :
    ∃ kept', Account c (log ++ s.trace (List.replicate polls .poll)) kept' [] := by
  induction polls generalizing s log kept owed with
  | zero =>
    have hnil : owed = [] := List.eq_nil_of_length_eq_zero (Nat.le_zero.mp hpolls)
    subst hnil
    exact ⟨kept, by simpa using h.toAccount⟩
  | succ polls ih =>
    rw [List.replicate_succ, Scene.trace_cons, List.append_cons]
    cases h.poll with
    | inVain _ hafter hlate =>
      have hnil : owed = [] := by
        refine List.eq_nil_iff_forall_not_mem.mpr fun promise hmem => ?_
        exact absurd (hlate promise hmem) (Nat.not_lt.mpr (hdue promise hmem))
      subst hnil
      exact ih hafter hdue (Nat.zero_le polls)
    | found _ howed hafter =>
      refine ih hafter ?_ ?_
      · intro other hother
        exact hdue other (howed.mem_iff.mpr (List.mem_cons_of_mem _ hother))
      · rw [howed.length_eq] at hpolls
        exact Nat.le_of_succ_le_succ hpolls

/-- With a poll for each open promise and one more, the last of them is in vain. -/
theorem pending_polls (h : Faithful c s log kept owed) {polls : Nat}
    (hpolls : owed.length < polls) :
    EndsPending (s.trace (List.replicate polls .poll)) := by
  let due (s : Scene) (owed : List Promise) : List Promise :=
    owed.filter fun promise => c.dueTime promise ≤ s.time
  let Coming (s : Scene) (replies : Nat) : Prop := ∃ log kept owed,
    Faithful c s log kept owed ∧ (due s owed).length = replies
  refine pending_of_polls (Scene.moment · .poll) (fun s => (s.moment .poll).after)
    (fun s polls => s.trace (List.replicate polls .poll)) Coming (fun _ _ => rfl) (fun _ => rfl) ?_
    ⟨log, kept, owed, h, rfl⟩ (Nat.lt_of_le_of_lt (List.length_filter_le ..) hpolls)
  rintro t _ ⟨log, kept, owed, ht, rfl⟩
  cases ht.poll with
  | inVain hpending hafter hlate =>
    refine .inl ⟨hpending, _, _, _, hafter, ?_⟩
    refine List.length_eq_zero_iff.mpr (List.filter_eq_nil_iff.mpr fun promise hmem => ?_)
    rw [decide_eq_true_eq]
    exact Nat.not_le_of_lt (hlate promise hmem)
  | @found promise rest _ howed hafter =>
    refine .inr ⟨_, ?_, _, _, _, hafter, rfl⟩
    have hdue : c.dueTime promise ≤ t.time :=
      hafter.kept_le promise (List.mem_append_right _ (List.mem_singleton_self _))
    have hlength := (howed.filter fun promise => decide (c.dueTime promise ≤ t.time)).length_eq
    simp only [List.filter_cons, hdue, decide_true, if_true, List.length_cons] at hlength
    exact Nat.lt_of_succ_le (Nat.le_of_eq hlength.symm)

end Faithful

/-! ## Traces -/

theorem faithful_opened (c : ProbeConfig) (start : Nat) (identifier : UInt16) (host : Host) :
    Faithful c (Scene.opened start { c with simulate := true } identifier host) [] [] [] where
  toAccount := .nil c
  simulates := ⟨.ofConfig c, rfl, ⟨rfl, rfl⟩, Simulation.timely_ofConfig c start, .refl _⟩
  kept_le := nofun
  sent_le := nofun

theorem Faithful.trace {c : ProbeConfig} {s : Scene} (h : Faithful c s [] [] [])
    (steps : List Step) :
    ∃ kept owed, Faithful c (s.run steps) (s.trace steps) kept owed ∧
      ∀ m ∈ (s.trace steps).getLast?, m.outcome = .pending →
        ∀ promise ∈ owed, m.time < c.dueTime promise := by
  induction steps using List.reverseRecOn with
  | nil => exact ⟨[], [], h, by simp⟩
  | append_singleton steps step ih =>
    obtain ⟨kept, owed, hbefore, -⟩ := ih
    obtain ⟨kept', owed', hafter, hpending⟩ := hbefore.moment step
    rw [Scene.run_append, Scene.trace_append]
    refine ⟨kept', owed', hafter, ?_⟩
    simpa using hpending

/-- A trace that ends in vain has kept the promises that are due. -/
theorem Faithful.perm_replies {c : ProbeConfig} {s : Scene} (h : Faithful c s [] [] [])
    {steps : List Step} (hpending : EndsPending (s.trace steps)) :
    ((replies (s.trace steps)).map (·.2)).Perm
      ((duePromises c (s.run steps).time (s.trace steps)).map (·.address)) := by
  obtain ⟨kept, owed, hlog, hlate⟩ := h.trace steps
  obtain ⟨m, hm, houtcome⟩ := hpending.exists_last
  have htime : m.time = (s.run steps).time := congrArg Scene.time (Scene.after_getLast? hm)
  rw [hlog.map_address]
  refine (perm_duePromises hlog.perm hlog.kept_le ?_).map _
  rw [← htime]
  exact hlate m hm houtcome

theorem promises_polls (c : ProbeConfig) (s : Scene) (polls : Nat) :
    promises c (s.trace (List.replicate polls .poll)) = [] := by
  induction polls generalizing s with
  | zero => rfl
  | succ polls ih => simpa [promises, List.replicate_succ, Moment.promise?] using ih _

/-- The promises of a trace are due once the delay has passed for the last one. -/
theorem Faithful.dueTime_le {c : ProbeConfig} {s : Scene} {log : List Moment}
    {kept owed : List Promise} (h : Faithful c s log kept owed) {duration : Nat}
    (hduration : c.replyTime + Clock.millisecond ≤ duration) :
    ∀ promise ∈ owed, c.dueTime promise ≤ s.time + duration := by
  intro promise hmem
  have hsent : promise.sent ≤ s.time := h.sent_le promise hmem
  calc
    c.dueTime promise ≤ promise.sent + c.replyTime + Clock.millisecond := Clock.roundUp_le _
    _ = promise.sent + (c.replyTime + Clock.millisecond) := Nat.add_assoc ..
    _ ≤ s.time + duration := Nat.add_le_add hsent hduration

/-- Once the delay has passed for all, as many polls as there are promises keep every one. -/
theorem Faithful.perm_settled {c : ProbeConfig} {s : Scene} (h : Faithful c s [] [] [])
    (steps : List Step) {duration polls : Nat}
    (hduration : c.replyTime + Clock.millisecond ≤ duration)
    (hpolls : (promises c (s.trace steps)).length ≤ polls) :
    ((replies (s.trace (steps ++ .advance duration :: List.replicate polls .poll))).map
      (·.2)).Perm ((promises c (s.trace steps)).map (·.address)) := by
  obtain ⟨kept, owed, hlog, -⟩ := h.trace steps
  have hle : (s.run steps).time ≤ (s.run steps).time + duration := Nat.le_add_right ..
  have hlater := hlog.pass (m := (s.run steps).moment (.advance duration)) rfl rfl hle
    (hlog.simulates.later hle)
  have howed : owed.length ≤ polls := by
    refine Nat.le_trans ?_ hpolls
    rw [← hlog.perm.length_eq, List.length_append]
    exact Nat.le_add_left ..
  obtain ⟨kept', hsettled⟩ := hlater.settle (hlog.dueTime_le hduration) howed
  have hlog' : s.trace (steps ++ .advance duration :: List.replicate polls .poll) =
      s.trace steps ++ [(s.run steps).moment (.advance duration)] ++
        ((s.run steps).moment (.advance duration)).after.trace (List.replicate polls .poll) := by
    rw [Scene.trace_append, Scene.trace_cons, List.append_cons]
  have hpromises : promises c (s.trace (steps ++ .advance duration ::
      List.replicate polls .poll)) = promises c (s.trace steps) := by
    rw [hlog', promises_append, promises_append, promises_polls, List.append_nil]
    exact List.append_nil _
  rw [← hlog'] at hsettled
  have hperm := hsettled.perm
  rw [List.append_nil, hpromises] at hperm
  rw [hsettled.map_address]
  exact hperm.map _

/-- Whatever is done to a simulated probe, in any order, there is an account of its replies: every
ping that is answered, and no other, is replied to at most once, from its own address and not
before its delay has passed; replies come in the order in which they are due; and a poll or a wait
is in vain only if no reply that is still to come is due. Once the delay has passed for all, as
many polls as there are promises keep every one of them. -/
theorem replies_of_simulation (c : ProbeConfig) (start : Nat) (identifier : UInt16) (host : Host)
    (steps : List Step) :
    let s := Scene.opened start { c with simulate := true } identifier host
    let log := s.trace steps
    (∃ kept owed, Account c log kept owed ∧
      ∀ m ∈ log.getLast?, m.outcome = .pending →
        ∀ promise ∈ owed, m.time < c.dueTime promise) ∧
    ∀ duration polls, c.replyTime + Clock.millisecond ≤ duration →
      (promises c log).length ≤ polls →
      ((replies (s.trace (steps ++ .advance duration :: List.replicate polls .poll))).map
        (·.2)).Perm ((promises c log).map (·.address)) := by
  intro s log
  have hs : Faithful c s [] [] [] := faithful_opened ..
  obtain ⟨kept, owed, hlog, hpending⟩ := hs.trace steps
  refine ⟨⟨kept, owed, hlog.toAccount, hpending⟩, ?_⟩
  intro duration polls hduration hpolls
  exact hs.perm_settled steps hduration hpolls

end PingTun.Probe
