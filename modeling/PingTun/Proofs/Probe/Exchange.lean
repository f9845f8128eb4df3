-- SUMMARY: A probe over a socket, together with a network that answers its requests faithfully.
import Mathlib.Data.List.Induction
import PingTun.Proofs.Echo.Answer
import PingTun.Proofs.Probe.Listening
import PingTun.Proofs.Probe.Promises

/-! # Exchanges

The system below the probe sends every packet, and the network answers each request to an address
that replies, once the delay of the configuration has passed. The replies to the promises that a
trace makes are either yielded, or waiting at the socket, or under way, and they are under way
exactly as long as they are not due.
-/

namespace PingTun.Probe

/-! ## Actions -/

/-- What is done to a probe, at whole milliseconds only. -/
inductive Action
  | send (now : Echo.Instant) (ping : Ping)
  | advance (milliseconds : Nat)
  | poll

def Action.step : Action → Step
  | .send now ping => .send now ping
  | .advance milliseconds => .advance (Clock.ofMilliseconds milliseconds)
  | .poll => .poll

/-! ## Networks -/

/-- A datagram on its way to a probe, and when it arrives. -/
structure Underway where
  due : Nat
  datagram : List UInt8

/-- What is up to a network: the rest of the IPv4 header of each answer, by the time at which a
packet was sent. -/
abbrev Envelopes := Nat → List UInt8 → Echo.Envelope

/-- The answer to a packet that was sent at a time, if its destination replies. -/
def answer? (c : ProbeConfig) (envelopes : Envelopes) (time : Nat) : Call → Option Underway
  | .sendTo _ destination _ packet (.ok _) =>
    if c.unreachable.Covers destination then none
    else some ⟨time + c.replyTime, Echo.answer (envelopes time packet) packet⟩
  | _ => none

/-- Of the calls of a send only the packet is answered. -/
theorem filterMap_answer? (c : ProbeConfig) (envelopes : Envelopes) (time : Nat)
    {socket : Descriptor} {told : Option Call}
    (htold : ∀ call ∈ told, call = .forbidFragmenting socket none) (sending : Call) :
    (told.toList ++ [sending]).filterMap (answer? c envelopes time) =
      (answer? c envelopes time sending).toList := by
  have hlast : [sending].filterMap (answer? c envelopes time) =
      (answer? c envelopes time sending).toList := by
    cases hanswer : answer? c envelopes time sending with
    | none => simp [hanswer]
    | some u => simp [hanswer]
  cases told with
  | none => exact hlast
  | some call =>
    rw [htold call rfl, List.filterMap_append, hlast]
    rfl

/-- A probe with its surroundings, and what is on its way to the probe. -/
structure Exchange where
  scene : Scene
  underway : List Underway

namespace Exchange

/-- Everything that is due arrives at the probe. -/
def deliver (x : Exchange) : Exchange :=
  let arrivals := (x.underway.filter fun u => u.due ≤ x.scene.time).map (.datagram ·.datagram)
  { scene := (x.scene.moment (.arrive arrivals)).after
    underway := x.underway.filter fun u => !decide (u.due ≤ x.scene.time) }

/-- What comes of an action at the probe. -/
def moment (x : Exchange) (action : Action) : Moment := x.scene.moment action.step

/-- The number of nanoseconds is named, since it is nothing to compute with. -/
theorem moment_advance (x : Exchange) {n duration : Nat}
    (h : duration = Clock.ofMilliseconds n) :
    x.moment (.advance n) =
      ⟨x.scene, .advance duration, .passed, [],
        { x.scene with time := x.scene.time + duration }⟩ := by
  rw [moment, Action.step, ← h, Scene.moment_advance]

/-- Take an action, and have the network answer what was sent in it. -/
def act (c : ProbeConfig) (envelopes : Envelopes) (x : Exchange) (action : Action) : Exchange :=
  let m := x.moment action
  deliver {
    scene := m.after
    underway := x.underway ++ m.calls.filterMap (answer? c envelopes m.time) }

/-- Where actions lead to. -/
def run (c : ProbeConfig) (envelopes : Envelopes) (x : Exchange) : List Action → Exchange
  | [] => x
  | action :: actions => run c envelopes (x.act c envelopes action) actions

/-- What comes of a number of actions at the probe. -/
def trace (c : ProbeConfig) (envelopes : Envelopes) (x : Exchange) : List Action → List Moment
  | [] => []
  | action :: actions => x.moment action :: trace c envelopes (x.act c envelopes action) actions

section

variable (c : ProbeConfig) (envelopes : Envelopes) (x : Exchange)

theorem run_append (actions later : List Action) :
    x.run c envelopes (actions ++ later) = (x.run c envelopes actions).run c envelopes later := by
  induction actions generalizing x with
  | nil => rfl
  | cons action actions ih => exact ih _

theorem trace_append (actions later : List Action) :
    x.trace c envelopes (actions ++ later) =
      x.trace c envelopes actions ++ (x.run c envelopes actions).trace c envelopes later := by
  induction actions generalizing x with
  | nil => rfl
  | cons action actions ih => exact congrArg (_ :: ·) (ih _)

theorem length_trace (actions : List Action) :
    (x.trace c envelopes actions).length = actions.length := by
  induction actions generalizing x with
  | nil => rfl
  | cons action actions ih => exact congrArg (· + 1) (ih _)

end

end Exchange

/-! ## Replies at the socket -/

/-- Whether an arrival is the reply that a promise is about. -/
def Answered (identifier : UInt16) (arrival : Arrival) (promise : Promise) : Prop :=
  arrival.reply? identifier = some promise.address

/-- A failure is no reply. -/
theorem not_answered_failure {identifier : UInt16} {arrivals : List Arrival}
    {promises : List Promise} (h : List.Forall₂ (Answered identifier) arrivals promises)
    {cause : Errno} : .failure cause ∉ arrivals := by
  induction h with
  | nil => exact List.not_mem_nil
  | cons hanswered _ ih =>
    intro hmem
    rcases List.mem_cons.mp hmem with rfl | hrest
    · cases hanswered
    · exact ih hrest

/-- A probe over a socket at which the replies to promises wait, in this order, and nothing else. -/
def Awaits (identifier : UInt16) (socket : Descriptor) (p : Probe) (arrived : List Promise) :
    Prop :=
  ∃ inbox, Listens identifier socket inbox p ∧ inbox.Intact ∧
    List.Forall₂ (Answered identifier) inbox.waiting arrived

namespace Awaits

variable {identifier : UInt16} {socket : Descriptor} {p : Probe} {arrived : List Promise}

theorem arrive (h : Awaits identifier socket p arrived) {arrivals : List Arrival}
    {promises : List Promise} (harrivals : List.Forall₂ (Answered identifier) arrivals promises) :
    Awaits identifier socket (p.arrive arrivals) (arrived ++ promises) := by
  obtain ⟨inbox, hlistens, hintact, hwaiting⟩ := h
  refine ⟨_, hlistens.arrive arrivals, hintact.arrive ?_, List.rel_append hwaiting harrivals⟩
  intro cause hmem
  exact not_answered_failure harrivals hmem

/-- A poll is in vain if no reply waits. -/
theorem poll_nil (h : Awaits identifier socket p []) (now steps : Nat) :
    ∃ left q events, p.pollWithin now steps = (none, left, q, events) ∧
      Awaits identifier socket q [] := by
  obtain ⟨inbox, hlistens, hintact, hwaiting⟩ := h
  obtain ⟨hnone, hempty⟩ :=
    Inbox.poll_of_empty (List.forall₂_nil_right_iff.mp hwaiting) identifier steps
  have hintact' := hintact.poll identifier steps
  rw [hlistens.pollWithin_eq, hnone]
  refine ⟨_, _, _, rfl, _, ⟨hlistens.identifier_eq, rfl⟩, hintact', ?_⟩
  · rw [hempty]
    exact .nil

/-- Any other poll yields the first reply. -/
theorem poll_cons {promise : Promise} (h : Awaits identifier socket p (promise :: arrived))
    (now : Nat) {steps : Nat} (hsteps : 0 < steps) :
    ∃ left q events, p.pollWithin now steps = (some promise.address, left, q, events) ∧
      Awaits identifier socket q arrived := by
  obtain ⟨inbox, hlistens, hintact, hwaiting⟩ := h
  obtain ⟨arrival, rest, hreply, hrest, hfront⟩ := List.forall₂_cons_right_iff.mp hwaiting
  obtain ⟨hsome, hleft⟩ := hintact.poll_cons hfront hreply hsteps
  have hintact' := hintact.poll identifier steps
  rw [hlistens.pollWithin_eq, hsome]
  refine ⟨_, _, _, rfl, _, ⟨hlistens.identifier_eq, rfl⟩, hintact', ?_⟩
  · rw [hleft]
    exact hrest

end Awaits

/-! ## Replies under way -/

/-- Whether what is under way is the reply that a promise is about, and arrives when it is due. -/
def Brings (c : ProbeConfig) (identifier : UInt16) (u : Underway) (promise : Promise) : Prop :=
  u.due = c.dueTime promise ∧ Answered identifier (.datagram u.datagram) promise

/-- What is under way is split by whether it is due, and the promises with it. -/
theorem brings_filter {c : ProbeConfig} {identifier : UInt16} {underway : List Underway}
    {coming : List Promise} (h : List.Forall₂ (Brings c identifier) underway coming) (time : Nat) :
    List.Forall₂ (Answered identifier)
        ((underway.filter fun u => u.due ≤ time).map (.datagram ·.datagram))
        (coming.filter fun promise => c.dueTime promise ≤ time) ∧
      List.Forall₂ (Brings c identifier) (underway.filter fun u => !decide (u.due ≤ time))
        (coming.filter fun promise => !decide (c.dueTime promise ≤ time)) := by
  induction h with
  | nil => exact ⟨.nil, .nil⟩
  | @cons u promise underway coming hbrings _ ih =>
    obtain ⟨hdue, hlate⟩ := ih
    simp only [List.filter_cons, hbrings.1]
    by_cases hle : c.dueTime promise ≤ time
    · simp only [hle, decide_true, if_true, Bool.not_true, Bool.false_eq_true, if_false]
      exact ⟨.cons hbrings.2 hdue, hlate⟩
    · simp only [hle, decide_false, if_true, Bool.not_false, Bool.false_eq_true, if_false]
      exact ⟨hdue, .cons hbrings hlate⟩

/-- An exchange with the trace that leads to it: the replies to the promises of the trace were
served, or have arrived, or are coming, and those that have not arrived are not due. -/
structure Relays (c : ProbeConfig) (identifier : UInt16) (socket : Descriptor) (x : Exchange)
    (log : List Moment) (served arrived coming : List Promise) : Prop where
  awaits : Awaits identifier socket x.scene.probe arrived
  accepts : Accepts x.scene.host
  whole : ∃ n, x.scene.time = Clock.ofMilliseconds n
  perm : (served ++ (arrived ++ coming)).Perm (promises c log)
  yielded : (replies log).map (·.2) = served.map (·.address)
  underway : List.Forall₂ (Brings c identifier) x.underway coming
  past : ∀ promise ∈ served ++ arrived, c.dueTime promise ≤ x.scene.time
  future : ∀ promise ∈ coming, x.scene.time < c.dueTime promise

namespace Relays

variable {c : ProbeConfig} (envelopes : Envelopes) {identifier : UInt16} {socket : Descriptor}
  {x : Exchange} {log : List Moment} {served arrived coming : List Promise}

/-- One more action, at the end of which everything arrives that is due. It may make a promise, and
it may yield the reply that waits in front of all others. -/
theorem act {action : Action} {m : Moment} (time : Nat) (made yielded : Option Promise)
    (rest : List Promise) (h : Relays c identifier socket x log served arrived coming)
    (hm : x.moment action = m) (htime : m.time = time) (hle : x.scene.time ≤ time)
    (hwhole : ∃ n, time = Clock.ofMilliseconds n) (haccepts : Accepts m.after.host)
    (harrived : arrived = yielded.toList ++ rest)
    (hawaits : Awaits identifier socket m.after.probe rest) (hmade : m.promise? c = made)
    (hreply : m.outcome.reply? = yielded.map (·.address))
    (hanswers : List.Forall₂ (Brings c identifier) (m.calls.filterMap (answer? c envelopes time))
      made.toList) :
    Relays c identifier socket (x.act c envelopes action) (log ++ [m]) (served ++ yielded.toList)
      (rest ++ (coming ++ made.toList).filter fun promise => c.dueTime promise ≤ time)
      ((coming ++ made.toList).filter fun promise => !decide (c.dueTime promise ≤ time)) := by
  subst hm htime
  obtain ⟨hdue, hlate⟩ :=
    brings_filter (List.rel_append h.underway hanswers) (x.moment action).time
  refine ⟨hawaits.arrive hdue, haccepts, hwhole, ?_, ?_, hlate, ?_, ?_⟩
  · have hsplit := List.filter_append_perm
      (fun promise => decide (c.dueTime promise ≤ (x.moment action).time))
      (coming ++ made.toList)
    have hperm := hsplit.append_left (served ++ (yielded.toList ++ rest))
    rw [← harrived] at hperm
    rw [promises_concat, hmade]
    refine .trans (.of_eq ?_) (hperm.trans (.trans (.of_eq ?_) (h.perm.append_right made.toList)))
    · simp only [List.append_assoc, harrived]
    · simp only [List.append_assoc]
  · rw [map_replies_concat, h.yielded, hreply, List.map_append]
    cases yielded with
    | none => rfl
    | some promise => rfl
  · intro promise hmem
    rw [List.append_assoc, ← List.append_assoc yielded.toList, ← harrived,
      ← List.append_assoc] at hmem
    rcases List.mem_append.mp hmem with hbefore | hnew
    · exact Nat.le_trans (h.past promise hbefore) hle
    · exact of_decide_eq_true (List.mem_filter.mp hnew).2
  · intro promise hmem
    have hnot := (List.mem_filter.mp hmem).2
    rw [Bool.not_eq_true', decide_eq_false_iff_not] at hnot
    exact Nat.lt_of_not_le hnot

/-- An action that makes no promise, yields nothing and has nothing answered. -/
theorem pass {action : Action} {m : Moment} (time : Nat)
    (h : Relays c identifier socket x log served arrived coming) (hm : x.moment action = m)
    (htime : m.time = time) (hle : x.scene.time ≤ time)
    (hwhole : ∃ n, time = Clock.ofMilliseconds n) (haccepts : Accepts m.after.host)
    (hawaits : Awaits identifier socket m.after.probe arrived)
    (hmade : m.promise? c = none) (hreply : m.outcome.reply? = none)
    (hanswers : m.calls.filterMap (answer? c envelopes time) = []) :
    Relays c identifier socket (x.act c envelopes action) (log ++ [m]) served
      (arrived ++ coming.filter fun promise => c.dueTime promise ≤ time)
      (coming.filter fun promise => !decide (c.dueTime promise ≤ time)) := by
  have hnothing : List.Forall₂ (Brings c identifier)
      (m.calls.filterMap (answer? c envelopes time)) [] := by
    rw [hanswers]
    exact .nil
  have hact := act envelopes time none none arrived h hm htime hle hwhole haccepts rfl hawaits
    hmade hreply hnothing
  rw [Option.toList_none, List.append_nil, List.append_nil] at hact
  exact hact

/-- As long as no time passes, nothing more arrives. -/
theorem filter_coming (h : Relays c identifier socket x log served arrived coming) :
    coming.filter (fun promise => c.dueTime promise ≤ x.scene.time) = [] ∧
      coming.filter (fun promise => !decide (c.dueTime promise ≤ x.scene.time)) = coming := by
  refine ⟨List.filter_eq_nil_iff.mpr ?_, List.filter_eq_self.mpr ?_⟩
  · intro promise hmem
    rw [decide_eq_true_eq]
    exact Nat.not_le_of_lt (h.future promise hmem)
  · intro promise hmem
    rw [Bool.not_eq_true', decide_eq_false_iff_not]
    exact Nat.not_le_of_lt (h.future promise hmem)

/-- A poll is in vain if no reply waits, and serves the first one otherwise. -/
theorem poll (h : Relays c identifier socket x log served arrived coming) :
    let m := x.moment .poll
    (arrived = [] ∧ m.outcome = .pending ∧
      Relays c identifier socket (x.act c envelopes .poll) (log ++ [m]) served [] coming) ∨
    ∃ promise rest, arrived = promise :: rest ∧ m.outcome ≠ .pending ∧
      Relays c identifier socket (x.act c envelopes .poll) (log ++ [m]) (served ++ [promise]) rest
        coming := by
  have hturn : 0 < EventLoop.stepsPerTurn := by decide
  obtain ⟨hnone, hall⟩ := h.filter_coming
  cases arrived with
  | nil =>
    obtain ⟨left, q, events, hpoll, hawaits⟩ :=
      h.awaits.poll_nil x.scene.time EventLoop.stepsPerTurn
    have hm : x.moment .poll = _ := Scene.moment_poll hpoll
    rw [hm]
    refine .inl ⟨rfl, rfl, ?_⟩
    have hpass := h.pass envelopes x.scene.time hm rfl (Nat.le_refl _) h.whole h.accepts hawaits
      rfl rfl (by rw [Moment.calls_quiet rfl, List.filterMap_nil])
    rw [hnone, hall, List.append_nil] at hpass
    exact hpass
  | cons promise rest =>
    obtain ⟨left, q, events, hpoll, hawaits⟩ := h.awaits.poll_cons x.scene.time hturn
    have hm : x.moment .poll = _ := Scene.moment_poll hpoll
    rw [hm]
    refine .inr ⟨promise, rest, rfl, nofun, ?_⟩
    have hact := act envelopes x.scene.time none (some promise) rest h hm rfl (Nat.le_refl _)
      h.whole h.accepts rfl hawaits rfl rfl (by rw [Moment.calls_quiet rfl]; exact .nil)
    simp only [Option.toList_none, Option.toList_some, List.append_nil, hnone, hall] at hact
    exact hact

theorem advance (h : Relays c identifier socket x log served arrived coming) (n : Nat) :
    ∃ arrived' coming', Relays c identifier socket (x.act c envelopes (.advance n))
      (log ++ [x.moment (.advance n)]) served arrived' coming' := by
  obtain ⟨duration, hduration⟩ : ∃ duration, duration = Clock.ofMilliseconds n := ⟨_, rfl⟩
  have hwhole : ∃ k, x.scene.time + duration = Clock.ofMilliseconds k := by
    obtain ⟨k, hk⟩ := h.whole
    refine ⟨k + n, ?_⟩
    rw [hk, hduration, Clock.ofMilliseconds, Clock.ofMilliseconds, ← Nat.add_mul]
    rfl
  have hm := x.moment_advance hduration
  rw [hm]
  exact ⟨_, _, h.pass envelopes (x.scene.time + duration) hm rfl (Nat.le_add_right ..) hwhole
    h.accepts h.awaits rfl rfl (by rw [Moment.calls_quiet rfl, List.filterMap_nil])⟩

/-- The answer to a packet of the probe is the reply that the ping promises. -/
theorem brings_answer (h : Relays c identifier socket x log served arrived coming)
    (now : Echo.Instant) (ping : Ping) (e : Echo.Envelope) :
    Brings c identifier
      ⟨x.scene.time + c.replyTime, Echo.answer e (x.scene.probe.packet now ping)⟩
      ⟨x.scene.time, ping.address⟩ := by
  obtain ⟨n, hn⟩ := h.whole
  obtain ⟨inbox, hlistens, -, -⟩ := h.awaits
  refine ⟨?_, ?_⟩
  · rw [hn, ProbeConfig.dueTime_ofMilliseconds]
  · have hreply := Echo.replySource_answer e (x.scene.probe.request ping) now
    rw [← hlistens.identifier_eq]
    exact hreply

theorem send (h : Relays c identifier socket x log served arrived coming) (now : Echo.Instant)
    (ping : Ping) :
    ∃ arrived' coming', Relays c identifier socket (x.act c envelopes (.send now ping))
      (log ++ [x.moment (.send now ping)]) served arrived' coming' := by
  obtain ⟨inbox, hlistens, hintact, hwaiting⟩ := h.awaits
  by_cases hfits : ping.payloadSize.toNat ≤ 65507
  · obtain ⟨hok, haccepts, told, htold, hcalls⟩ :=
      transmit_of_accepts h.accepts socket (x.scene.probe.packet now ping) ping
    have hm : x.moment (.send now ping) = _ :=
      Scene.moment_send (sendAt_socket hlistens.backend_eq hfits)
    rw [hm]
    have hafter : Listens identifier socket inbox
        { x.scene.probe with nextSequence := x.scene.probe.nextSequence + 1 } :=
      ⟨hlistens.identifier_eq, hlistens.backend_eq⟩
    by_cases hcovers : c.unreachable.Covers ping.address
    · refine ⟨_, _, h.pass envelopes x.scene.time hm rfl (Nat.le_refl _) h.whole haccepts
        ⟨inbox, hafter, hintact, hwaiting⟩ (if_neg fun hanswers => hanswers.2 hcovers) rfl ?_⟩
      rw [Moment.calls_eq hcalls, filterMap_answer? c envelopes _ htold, answer?, if_pos hcovers]
      rfl
    · have hact := act envelopes x.scene.time (some ⟨x.scene.time, ping.address⟩) none arrived h hm
        rfl (Nat.le_refl _) h.whole haccepts rfl ⟨inbox, hafter, hintact, hwaiting⟩
        (if_pos ⟨hfits, hcovers⟩) rfl
        (by
          rw [Moment.calls_eq hcalls, filterMap_answer? c envelopes _ htold, answer?,
            if_neg hcovers]
          exact .cons (h.brings_answer now ping _) .nil)
      rw [Option.toList_none, List.append_nil] at hact
      exact ⟨_, _, hact⟩
  · have hm : x.moment (.send now ping) = _ :=
      Scene.moment_send (sendAt_of_lt hlistens.state_ne (Nat.lt_of_not_le hfits))
    rw [hm]
    exact ⟨_, _, h.pass envelopes x.scene.time hm rfl (Nat.le_refl _) h.whole h.accepts h.awaits
      (if_neg fun hanswers => hfits hanswers.1) rfl
      (by rw [Moment.calls_quiet rfl, List.filterMap_nil])⟩

/-- Every action keeps what there is to say about an exchange, and a poll is in vain only if nothing
waits. -/
theorem moment (h : Relays c identifier socket x log served arrived coming) (action : Action) :
    ∃ served' arrived' coming', Relays c identifier socket (x.act c envelopes action)
      (log ++ [x.moment action]) served' arrived' coming' ∧
        ((x.moment action).outcome = .pending → arrived' = []) := by
  cases action with
  | send now ping =>
    obtain ⟨arrived', coming', hafter⟩ := h.send envelopes now ping
    exact ⟨served, arrived', coming', hafter, nofun⟩
  | advance n =>
    obtain ⟨arrived', coming', hafter⟩ := h.advance envelopes n
    exact ⟨served, arrived', coming', hafter, nofun⟩
  | poll =>
    rcases h.poll envelopes with ⟨-, -, hafter⟩ | ⟨promise, rest, -, hfound, hafter⟩
    · exact ⟨served, [], coming, hafter, fun _ => rfl⟩
    · exact ⟨_, rest, coming, hafter, fun hpending => absurd hpending hfound⟩

theorem trace (h : Relays c identifier socket x [] [] [] []) (actions : List Action) :
    ∃ served arrived coming, Relays c identifier socket (x.run c envelopes actions)
      (x.trace c envelopes actions) served arrived coming ∧
        ∀ m ∈ (x.trace c envelopes actions).getLast?, m.outcome = .pending → arrived = [] := by
  induction actions using List.reverseRecOn with
  | nil => exact ⟨[], [], [], h, by simp [Exchange.trace]⟩
  | append_singleton actions action ih =>
    obtain ⟨served, arrived, coming, hbefore, -⟩ := ih
    obtain ⟨served', arrived', coming', hafter, hpending⟩ :=
      hbefore.moment envelopes action
    rw [Exchange.run_append, Exchange.trace_append]
    refine ⟨served', arrived', coming', hafter, ?_⟩
    simpa [Exchange.trace] using hpending

/-- A trace that ends in vain has served the promises that are due. -/
theorem perm_replies (h : Relays c identifier socket x [] [] [] []) {actions : List Action}
    (hpending : EndsPending (x.trace c envelopes actions)) :
    ((replies (x.trace c envelopes actions)).map (·.2)).Perm
      ((duePromises c (x.run c envelopes actions).scene.time
        (x.trace c envelopes actions)).map (·.address)) := by
  obtain ⟨served, arrived, coming, hlog, hnone⟩ := h.trace envelopes actions
  obtain ⟨m, hm, houtcome⟩ := hpending.exists_last
  cases hnone m hm houtcome
  rw [hlog.yielded]
  refine (perm_duePromises hlog.perm ?_ hlog.future).map _
  intro promise hmem
  exact hlog.past promise (List.mem_append_left _ hmem)

/-- With a poll for each reply that waits and one more, the last of them is in vain. -/
theorem pending_polls (h : Relays c identifier socket x log served arrived coming) {polls : Nat}
    (hpolls : arrived.length < polls) :
    EndsPending (x.trace c envelopes (List.replicate polls .poll)) := by
  let Coming (x : Exchange) (replies : Nat) : Prop := ∃ log served arrived coming,
    Relays c identifier socket x log served arrived coming ∧ arrived.length = replies
  refine pending_of_polls (Exchange.moment · .poll) (Exchange.act c envelopes · .poll)
    (fun x polls => x.trace c envelopes (List.replicate polls .poll)) Coming (fun _ _ => rfl)
    (fun _ => rfl) ?_ ⟨log, served, arrived, coming, h, rfl⟩ hpolls
  rintro y _ ⟨log, served, arrived, coming, hy, rfl⟩
  rcases hy.poll envelopes with ⟨-, hpending, hafter⟩ | ⟨promise, rest, rfl, -, hafter⟩
  · exact .inl ⟨hpending, _, _, _, _, hafter, rfl⟩
  · exact .inr ⟨rest.length, Nat.lt_succ_self _, _, _, _, _, hafter, rfl⟩

end Relays

end PingTun.Probe
