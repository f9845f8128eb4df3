-- SUMMARY: Waiting for all simulated replies up to a time: what is handed out, and what is left.
import Mathlib.Data.List.Perm.Basic
import PingTun.Proofs.Probe.Lifetime
import PingTun.Proofs.Probe.Simulated

/-! # Collecting replies

Whoever waits for one reply after the other up to a time is handed out the replies that are due by
then, each once and none early. The waits in between are given up and taken up again, and none of
them loses a reply. What is left is not due before the end.
-/

namespace PingTun.Probe

/-! ## Handing out -/

/-- Whether a reply is one that was to come, handed out between two times: it comes from its
address, and not before it is due. -/
structure Delivers (start stop : Nat) (out : Outstanding) (reply : Nat × Address) : Prop where
  address : reply.2 = out.address
  due : out.due ≤ reply.1
  start_le : start ≤ reply.1
  le_stop : reply.1 ≤ stop

theorem Delivers.mono {start earlier stop later : Nat} {out : Outstanding} {reply : Nat × Address}
    (h : Delivers start stop out reply) (hstart : earlier ≤ start) (hstop : stop ≤ later) :
    Delivers earlier later out reply :=
  { h with
    start_le := Nat.le_trans hstart h.start_le
    le_stop := Nat.le_trans h.le_stop hstop }

/-- Between two times some of the replies to come are handed out, and the rest is left. -/
def HandsOut (start stop : Nat) (coming : List Outstanding) (replies : List (Nat × Address))
    (rest : List Outstanding) : Prop :=
  ∃ given : List Outstanding, coming.Perm (given ++ rest) ∧
    List.Forall₂ (Delivers start stop) given replies

namespace HandsOut

variable {start stop : Nat} {coming middle rest : List Outstanding}
  {replies further : List (Nat × Address)}

theorem nil (start stop : Nat) (coming : List Outstanding) :
    HandsOut start stop coming [] coming :=
  ⟨[], .refl _, .nil⟩

theorem cons {out : Outstanding} {reply : Nat × Address} (hperm : coming.Perm (out :: middle))
    (hreply : Delivers start stop out reply) (h : HandsOut start stop middle replies rest) :
    HandsOut start stop coming (reply :: replies) rest := by
  obtain ⟨given, hgiven, hreplies⟩ := h
  exact ⟨out :: given, hperm.trans (hgiven.cons out), .cons hreply hreplies⟩

theorem append (h : HandsOut start stop coming replies middle)
    (hmiddle : HandsOut start stop middle further rest) :
    HandsOut start stop coming (replies ++ further) rest := by
  obtain ⟨given, hgiven, hreplies⟩ := h
  obtain ⟨more, hmore, hfurther⟩ := hmiddle
  refine ⟨given ++ more, ?_, List.rel_append hreplies hfurther⟩
  rw [List.append_assoc]
  exact hgiven.trans (hmore.append_left given)

theorem mono {earlier later : Nat} (h : HandsOut start stop coming replies rest)
    (hstart : earlier ≤ start) (hstop : stop ≤ later) :
    HandsOut earlier later coming replies rest := by
  obtain ⟨given, hgiven, hreplies⟩ := h
  exact ⟨given, hgiven, hreplies.imp fun _ _ hreply => hreply.mono hstart hstop⟩

/-- What is left was to come before. -/
theorem mem_of_mem {out : Outstanding} (h : HandsOut start stop coming replies rest)
    (hout : out ∈ rest) : out ∈ coming := by
  obtain ⟨given, hgiven, -⟩ := h
  exact hgiven.mem_iff.mpr (List.mem_append_right given hout)

/-- Replies to come that are numbered can be told by their numbers. -/
theorem numbers {replyTo : Nat → Outstanding} {owed : List Nat}
    (h : HandsOut start stop (owed.map replyTo) replies rest) :
    ∃ answered left, owed.Perm (answered ++ left) ∧ rest = left.map replyTo ∧
      List.Forall₂ (fun number => Delivers start stop (replyTo number)) answered replies := by
  obtain ⟨given, hgiven, hreplies⟩ := h
  have hnumbers :
      List.Forall₂ (fun out number => replyTo number = out) (owed.map replyTo) owed := by
    rw [List.forall₂_map_left_iff]
    exact List.forall₂_same.mpr fun _ _ => rfl
  obtain ⟨all, hall, hperm⟩ := List.perm_comp_forall₂ hgiven.symm hnumbers
  have hmap : all.map replyTo = given ++ rest := by
    rw [← List.forall₂_eq_eq_eq, List.forall₂_map_left_iff]
    exact hall.flip
  obtain ⟨answered, left, rfl, rfl, rfl⟩ := List.map_eq_append_iff.mp hmap
  exact ⟨answered, left, hperm.symm, rfl, List.forall₂_map_left_iff.mp hreplies⟩

end HandsOut

namespace Simulates

variable {c : ProbeConfig} {now last steps left enough : Nat} {p q : Probe}
  {coming : List Outstanding} {events : List Event}

/-! ## One reply -/

/-- A poll in vain that had a step for each stop sets the timer for later, and not behind any reply
to come. -/
theorem wakeTime_of_poll (h : Simulates c now p coming) (hsteps : 7 < steps)
    (hpoll : p.pollWithin now steps = (none, left, q, events)) :
    (∀ wake ∈ q.wakeTime?, now < wake) ∧
      ∀ reply ∈ coming, ∃ wake ∈ q.wakeTime?, wake ≤ reply.due := by
  obtain ⟨s, hp, -, htimely, hperm⟩ := h
  simp only [pollWithin, hp, Prod.mk.injEq] at hpoll
  obtain ⟨hnone, -, rfl, -⟩ := hpoll
  obtain ⟨hoverdue, hearly⟩ := htimely.early_of_poll hsteps hnone
  have hserved := htimely.served_poll steps
  have hlate := htimely.lt_due_of_poll hsteps hnone
  rw [hnone] at hserved
  generalize (s.poll now steps).2.2 = t at hserved hearly
  constructor
  · intro wake hwake
    obtain ⟨timer, htimer, rfl⟩ := Option.map_eq_some_iff.mp hwake
    exact hearly.lt_timer timer htimer
  · intro reply hreply
    cases hserved with
    | nothing hentries ht _ =>
      have hlater : now < reply.due := hlate reply (hperm.mem_iff.mpr hreply)
      rw [← hperm.mem_iff, ← hentries, Simulation.entries, List.mem_append, List.mem_map] at hreply
      rcases hreply with ⟨address, -, rfl⟩ | hmem
      · -- What needs no timer is due.
        exact absurd hlater (Nat.not_lt.mpr (Nat.le_trans ht.reached_le ht.rang_le))
      · obtain ⟨timer, htimer, hle⟩ := ht.timer_le_due reply hmem
        exact ⟨timer.due, Option.map_eq_some_iff.mpr ⟨timer, htimer, rfl⟩, hle⟩

/-- A wait that is given up in front of its last point in time leaves no reply due before it. -/
theorem le_due_of_nextBefore (h : Simulates c now p coming) (hsteps : 7 < steps) (hlt : now < last)
    (hnone : p.nextBefore steps now last = (none, q, events)) :
    ∀ reply ∈ coming, last ≤ reply.due := by
  fun_induction nextBefore steps now last p generalizing q events with
  | case1 => cases hnone
  | case2 now p _ left r further hpoll hwake =>
    intro reply hreply
    obtain ⟨wake, hmem, -⟩ := (h.wakeTime_of_poll hsteps hpoll).2 reply hreply
    rw [hwake] at hmem
    cases hmem
  | case3 now p _ left r further hpoll time hwake hlater found t later hrest ih =>
    cases hnone
    have hr := (h.poll_none hpoll).later (Nat.le_of_lt hlater)
    by_cases htime : time < last
    · exact ih hr htime hrest
    · intro reply hreply
      obtain ⟨wake, hmem, hle⟩ := (h.wakeTime_of_poll hsteps hpoll).2 reply hreply
      cases hwake.symm.trans hmem
      exact Nat.le_trans (Nat.le_of_not_lt htime) hle
  | case4 now p _ left r further hpoll time hwake hearlier =>
    exact absurd ((h.wakeTime_of_poll hsteps hpoll).1 time hwake) hearlier
  | case5 now p hnot => exact absurd hlt hnot

/-- What it comes to that a reply is waited for up to a last point in time. -/
inductive Awaited (c : ProbeConfig) (coming : List Outstanding) (now last : Nat) :
    Option (Nat × Address) → Probe → Prop
  | nothing {q : Probe} (after : Simulates c last q coming)
    (late : ∀ reply ∈ coming, last ≤ reply.due) : Awaited c coming now last none q
  | reply {q : Probe} {time : Nat} {out : Outstanding} {rest : List Outstanding}
    (perm : coming.Perm (out :: rest)) (due : out.due ≤ time) (after : Simulates c time q rest)
    (le_time : now ≤ time) (le_last : time ≤ last)
    (late : last ≤ time → ∀ reply ∈ coming, last ≤ reply.due) :
    Awaited c coming now last (some (time, out.address)) q

/-- A wait hands out a reply that is due, or leaves none that is due before its last point in
time. -/
theorem awaited_nextWithin (h : Simulates c now p coming) (henough : 7 < enough) (hle : now ≤ last)
    (hlate : last ≤ now → ∀ reply ∈ coming, last ≤ reply.due) (steps : Nat) :
    Awaited c coming now last (p.nextWithin enough now last steps).1
        (p.nextWithin enough now last steps).2.2.1 ∧
      SameSender p (p.nextWithin enough now last steps).2.2.1 := by
  unfold nextWithin
  cases hbefore : p.nextBefore enough now last with
  | mk found answer =>
    obtain ⟨q, events⟩ := answer
    cases found with
    | some found =>
      obtain ⟨time, address⟩ := found
      obtain ⟨htime, r, left, further, hidle, hpoll⟩ := idle_of_nextBefore_some hbefore
      obtain ⟨out, rest, hperm, rfl, hdue, -, hafter⟩ := (h.idle hidle).poll_some hpoll
      refine ⟨?_, hidle.sameSender.trans (sameSender_of_pollWithin hpoll)⟩
      exact .reply hperm hdue hafter hidle.le (Nat.le_of_lt htime)
        fun hlast => absurd htime (Nat.not_lt.mpr hlast)
    | none =>
      have hcoming : ∀ reply ∈ coming, last ≤ reply.due := by
        by_cases hlt : now < last
        · exact h.le_due_of_nextBefore henough hlt hbefore
        · exact hlate (Nat.le_of_not_lt hlt)
      have hidle := idle_of_nextBefore_none hle hbefore
      have hq := h.idle hidle
      dsimp only
      cases hpoll : q.pollWithin last (stepsLeft steps) with
      | mk reply answer =>
        obtain ⟨left, r, later⟩ := answer
        refine ⟨?_, hidle.sameSender.trans (sameSender_of_pollWithin hpoll)⟩
        cases reply with
        | none => exact .nothing (hq.poll_none hpoll) hcoming
        | some address =>
          obtain ⟨out, rest, hperm, rfl, hdue, -, hafter⟩ := hq.poll_some hpoll
          exact .reply hperm hdue hafter hle (Nat.le_refl last) fun _ => hcoming

end Simulates

/-! ## All replies -/

/-- Replies are collected from a probe between two times: all that are due before the end are handed
out, the rest is left, and further requests go on as if there had been no wait. -/
structure Collects (c : ProbeConfig) (start stop : Nat) (p : Probe) (coming : List Outstanding)
    (replies : List (Nat × Address)) (q : Probe) (rest : List Outstanding) : Prop where
  given : HandsOut start stop coming replies rest
  after : Simulates c stop q rest
  late : ∀ reply ∈ rest, stop ≤ reply.due
  sender : SameSender p q

namespace Collects

variable {c : ProbeConfig} {start middle stop : Nat} {p q r : Probe}
  {coming rest left : List Outstanding} {replies further : List (Nat × Address)}

theorem refl (h : Simulates c start p coming) (hlate : ∀ reply ∈ coming, start ≤ reply.due) :
    Collects c start start p coming [] p coming :=
  ⟨.nil start start coming, h, hlate, .refl p⟩

theorem trans (h : Collects c start middle p coming replies q rest)
    (hlater : Collects c middle stop q rest further r left) (hmiddle : start ≤ middle)
    (hstop : middle ≤ stop) : Collects c start stop p coming (replies ++ further) r left where
  given := (h.given.mono (Nat.le_refl start) hstop).append
    (hlater.given.mono hmiddle (Nat.le_refl stop))
  after := hlater.after
  late := hlater.late
  sender := h.sender.trans hlater.sender

/-- Time passes without a reply being due. -/
theorem later (h : Collects c start middle p coming replies q rest) (hle : middle ≤ stop)
    (hlate : ∀ reply ∈ rest, stop ≤ reply.due) :
    Collects c start stop p coming replies q rest where
  given := h.given.mono (Nat.le_refl start) hle
  after := h.after.later hle
  late := hlate
  sender := h.sender

end Collects

namespace Simulates

variable {c : ProbeConfig} {now last enough : Nat} {p : Probe} {coming : List Outstanding}

theorem collects_collectWithin (h : Simulates c now p coming) (henough : 7 < enough)
    (hle : now ≤ last) (hlate : last ≤ now → ∀ reply ∈ coming, last ≤ reply.due) (steps : Nat) :
    ∃ rest, Collects c now last p coming (p.collectWithin enough now last steps).1
      (p.collectWithin enough now last steps).2.1 rest := by
  induction hlength : coming.length using Nat.strongRecOn generalizing coming now p steps with
  | ind length ih =>
    have hawaited := h.awaited_nextWithin henough hle hlate steps
    rw [collectWithin_eq]
    generalize p.nextWithin enough now last steps = answer at hawaited ⊢
    obtain ⟨found, left, q, events⟩ := answer
    obtain ⟨hawaited, hsender⟩ := hawaited
    cases hawaited with
    | nothing hafter hcoming =>
      exact ⟨coming, .nil now last coming, hafter, hcoming, hsender⟩
    | @reply _ time out rest hperm hdue hafter hnow hlast hcoming =>
      have hfewer : rest.length < length := by
        rw [← hlength, hperm.length_eq]
        exact Nat.lt_succ_self _
      have hrest (hend : last ≤ time) (reply : Outstanding) (hreply : reply ∈ rest) :
          last ≤ reply.due :=
        hcoming hend reply (hperm.mem_iff.mpr (List.mem_cons_of_mem out hreply))
      obtain ⟨left, hleft⟩ := ih _ hfewer hafter hlast hrest _ rfl
      refine ⟨left, .cons hperm ⟨rfl, hdue, hnow, hlast⟩ ?_, hleft.after, hleft.late,
        hsender.trans hleft.sender⟩
      exact hleft.given.mono hnow (Nat.le_refl last)

/-- To collect replies up to a time hands out all that are due before it, and leaves the others. -/
theorem collects_collect (h : Simulates c now p coming) (hle : now ≤ last)
    (hlate : ∀ reply ∈ coming, now ≤ reply.due) :
    ∃ rest, Collects c now last p coming (p.collect now last).1 (p.collect now last).2.1 rest := by
  have henough : 7 < p.enoughSteps :=
    Nat.lt_of_lt_of_le (by decide : 7 < EventLoop.stepsPerTurn) (Nat.le_add_left ..)
  refine h.collects_collectWithin henough hle ?_ 0
  intro hlast reply hreply
  exact Nat.le_trans hlast (hlate reply hreply)

end Simulates

end PingTun.Probe
