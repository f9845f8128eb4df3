-- SUMMARY: What polls read from a socket: every arrival once, in order, and nothing behind a reply.
import PingTun.Proofs.Probe.Promises
import PingTun.Proofs.Probe.Sends
import PingTun.Proofs.Probe.Waits

/-! # Reading

Polls take what has arrived from its front, up to the first reply. Which arrivals are replies
depends on their own beginnings alone, not on what was in the receive buffer before. So the replies
of a trace are those among everything that was read, in the order in which it arrived.
-/

namespace PingTun

/-- The reply that an arrival is, if it is one. No more of a datagram counts than is received. -/
def Arrival.reply? (identifier : UInt16) : Arrival → Option Address
  | .datagram bytes => (Echo.replySource identifier (bytes.take 2048)).1
  | .failure _ => none

namespace Inbox

/-! ## One poll -/

/-- What was read to come to a reply, or to none: everything up to the first reply, which is the
last that was read. -/
structure Reads (identifier : UInt16) (waiting : List Arrival) (reply : Option Address)
    (rest read : List Arrival) : Prop where
  split : waiting = read ++ rest
  none_before : reply = none → read.filterMap (·.reply? identifier) = []
  reply_last : ∀ address ∈ reply, ∃ front last, read = front ++ [last] ∧
    front.filterMap (·.reply? identifier) = [] ∧ last.reply? identifier = some address

namespace Reads

variable {identifier : UInt16} {waiting rest read : List Arrival} {reply : Option Address}

theorem nil (identifier : UInt16) (waiting : List Arrival) :
    Reads identifier waiting none waiting [] where
  split := rfl
  none_before := fun _ => rfl
  reply_last := by simp

/-- What is no reply may be read before. -/
theorem cons {arrival : Arrival} (h : Reads identifier waiting reply rest read)
    (hnone : arrival.reply? identifier = none) :
    Reads identifier (arrival :: waiting) reply rest (arrival :: read) where
  split := by rw [h.split, List.cons_append]
  none_before := by
    intro hreply
    rw [List.filterMap_cons_none hnone]
    exact h.none_before hreply
  reply_last := by
    intro address haddress
    obtain ⟨front, last, hread, hfront, hlast⟩ := h.reply_last address haddress
    refine ⟨arrival :: front, last, by rw [hread, List.cons_append], ?_, hlast⟩
    rwa [List.filterMap_cons_none hnone]

/-- Reading goes on where it came to nothing before. -/
theorem trans {middle later : List Arrival} (h : Reads identifier waiting none middle read)
    (hlater : Reads identifier middle reply rest later) :
    Reads identifier waiting reply rest (read ++ later) := by
  have hnone := h.none_before rfl
  rw [h.split]
  clear h
  induction read with
  | nil => exact hlater
  | cons arrival read ih =>
    cases hreply : arrival.reply? identifier with
    | none => exact (ih (by simpa [hreply] using hnone)).cons hreply
    | some address => simp [hreply] at hnone

/-- What was read has no other replies than the one that was come to. -/
theorem filterMap (h : Reads identifier waiting reply rest read) :
    read.filterMap (·.reply? identifier) = reply.toList := by
  cases reply with
  | none => exact h.none_before rfl
  | some address =>
    obtain ⟨front, last, rfl, hfront, hlast⟩ := h.reply_last address rfl
    simp [hfront, hlast]

end Reads

variable {identifier : UInt16}

/-- A datagram is read as if the buffer had been empty before. -/
theorem drain_datagram (identifier : UInt16) (steps : Nat) (bytes : List UInt8)
    (rest : List Arrival) (buffer : ReceiveBuffer) :
    drain identifier (steps + 1) (.datagram bytes :: rest) buffer =
      if (Echo.replySource identifier (bytes.take 2048)).1.isSome then
        ((Echo.replySource identifier (bytes.take 2048)).1, steps,
          ⟨rest, true, (buffer.fill bytes).1⟩, (Echo.replySource identifier (bytes.take 2048)).2)
      else
        ((drain identifier steps rest (buffer.fill bytes).1).1,
          (drain identifier steps rest (buffer.fill bytes).1).2.1,
          (drain identifier steps rest (buffer.fill bytes).1).2.2.1,
          (Echo.replySource identifier (bytes.take 2048)).2 ++
            (drain identifier steps rest (buffer.fill bytes).1).2.2.2) := by
  have htake : (buffer.fill bytes).1.bytes.take (buffer.fill bytes).2 = bytes.take 2048 :=
    buffer.take_fill bytes
  rw [drain]
  cases hfill : buffer.fill bytes with
  | mk filled read =>
    rw [hfill] at htake
    dsimp only at htake ⊢
    rw [htake]
    rcases Echo.replySource identifier (bytes.take 2048) with ⟨_ | source, events⟩
    · rfl
    · rfl

theorem reads_drain (steps : Nat) (waiting : List Arrival) (buffer : ReceiveBuffer) :
    ∃ read, Reads identifier waiting (drain identifier steps waiting buffer).1
      (drain identifier steps waiting buffer).2.2.1.waiting read := by
  induction steps generalizing waiting buffer with
  | zero => exact ⟨[], .nil identifier waiting⟩
  | succ steps ih =>
    match waiting with
    | [] => exact ⟨[], .nil identifier []⟩
    | .failure cause :: rest => exact ⟨[_], (Reads.nil identifier rest).cons rfl⟩
    | .datagram bytes :: rest =>
      rw [drain_datagram]
      cases hreply : (Echo.replySource identifier (bytes.take 2048)).1 with
      | none =>
        obtain ⟨read, hread⟩ := ih rest (buffer.fill bytes).1
        exact ⟨_, hread.cons hreply⟩
      | some source =>
        refine ⟨[.datagram bytes], rfl, nofun, ?_⟩
        rintro _ ⟨rfl⟩
        exact ⟨[], .datagram bytes, rfl, rfl, hreply⟩

theorem reads_poll (i : Inbox) (identifier : UInt16) (steps : Nat) :
    ∃ read, Reads identifier i.waiting (i.poll identifier steps).1
      (i.poll identifier steps).2.2.1.waiting read := by
  unfold poll
  split
  · exact reads_drain steps i.waiting i.buffer
  · exact ⟨[], .nil identifier i.waiting⟩

/-! ## Steps -/

/-- With more steps than arrivals a poll comes to its end by itself: further steps change
nothing. -/
theorem drain_steps {fewer more : Nat} {waiting : List Arrival} (hfewer : waiting.length < fewer)
    (hmore : waiting.length < more) (buffer : ReceiveBuffer) :
    (drain identifier fewer waiting buffer).1 = (drain identifier more waiting buffer).1 ∧
      (drain identifier fewer waiting buffer).2.2 =
        (drain identifier more waiting buffer).2.2 := by
  induction waiting generalizing fewer more buffer with
  | nil =>
    obtain ⟨fewer, rfl⟩ := Nat.exists_eq_succ_of_ne_zero (Nat.ne_of_gt hfewer)
    obtain ⟨more, rfl⟩ := Nat.exists_eq_succ_of_ne_zero (Nat.ne_of_gt hmore)
    exact ⟨rfl, rfl⟩
  | cons arrival rest ih =>
    obtain ⟨fewer, rfl⟩ := Nat.exists_eq_succ_of_ne_zero (Nat.ne_of_gt (Nat.zero_lt_of_lt hfewer))
    obtain ⟨more, rfl⟩ := Nat.exists_eq_succ_of_ne_zero (Nat.ne_of_gt (Nat.zero_lt_of_lt hmore))
    cases arrival with
    | failure cause => exact ⟨rfl, rfl⟩
    | datagram bytes =>
      simp only [drain_datagram]
      split
      · exact ⟨rfl, rfl⟩
      · obtain ⟨hreply, hrest⟩ := ih (Nat.lt_of_succ_lt_succ hfewer)
          (Nat.lt_of_succ_lt_succ hmore) (buffer.fill bytes).1
        exact ⟨hreply, by simp only [hrest]⟩

theorem poll_steps (i : Inbox) (identifier : UInt16) {fewer more : Nat}
    (hfewer : i.waiting.length < fewer) (hmore : i.waiting.length < more) :
    (i.poll identifier fewer).1 = (i.poll identifier more).1 ∧
      (i.poll identifier fewer).2.2 = (i.poll identifier more).2.2 := by
  unfold poll
  split
  · exact drain_steps hfewer hmore i.buffer
  · exact ⟨rfl, rfl⟩

/-! ## Reading everything -/

@[simp] theorem arrive_nil (i : Inbox) : i.arrive [] = i := by
  simp [arrive]

/-- What waits can be read: none of it is a failure, and the socket is ready as long as anything
waits. -/
structure Intact (i : Inbox) : Prop where
  readable : ∀ cause, .failure cause ∉ i.waiting
  ready : i.waiting ≠ [] → i.ready = true

theorem Intact.arrive {i : Inbox} (h : i.Intact) {arrivals : List Arrival}
    (hreadable : ∀ cause, .failure cause ∉ arrivals) : (i.arrive arrivals).Intact where
  readable := by
    intro cause hmem
    rcases List.mem_append.mp hmem with hbefore | hnew
    · exact h.readable cause hbefore
    · exact hreadable cause hnew
  ready := by
    intro hsome
    cases arrivals with
    | nil => simpa [Inbox.arrive] using h.ready (by simpa [Inbox.arrive] using hsome)
    | cons arrival arrivals => simp [Inbox.arrive]

theorem intact_drain {waiting : List Arrival} (h : ∀ cause, .failure cause ∉ waiting)
    (steps : Nat) (buffer : ReceiveBuffer) :
    (drain identifier steps waiting buffer).2.2.1.Intact := by
  induction steps generalizing waiting buffer with
  | zero => exact ⟨h, fun _ => rfl⟩
  | succ steps ih =>
    match waiting with
    | [] => exact ⟨h, fun hsome => absurd rfl hsome⟩
    | .failure cause :: rest => exact absurd List.mem_cons_self (h cause)
    | .datagram bytes :: rest =>
      have hrest (cause : Errno) : .failure cause ∉ rest :=
        fun hmem => h cause (List.mem_cons_of_mem _ hmem)
      rw [drain_datagram]
      split
      · exact ⟨hrest, fun _ => rfl⟩
      · exact ih hrest _

theorem Intact.poll {i : Inbox} (h : i.Intact) (identifier : UInt16) (steps : Nat) :
    (i.poll identifier steps).2.2.1.Intact := by
  unfold Inbox.poll
  split
  · exact intact_drain h.readable steps i.buffer
  · exact h

/-- A poll reads at least one of what waits. -/
theorem Intact.length_poll {i : Inbox} (h : i.Intact) (identifier : UInt16) {steps : Nat}
    (hsteps : 0 < steps) :
    (i.poll identifier steps).2.2.1.waiting.length ≤ i.waiting.length - 1 := by
  obtain ⟨steps, rfl⟩ := Nat.exists_eq_succ_of_ne_zero (Nat.ne_of_gt hsteps)
  cases hwaiting : i.waiting with
  | nil =>
    have hlength := i.length_waiting_poll identifier (steps + 1)
    rw [hwaiting] at hlength
    exact Nat.le_trans (Nat.le_add_right ..) hlength
  | cons arrival rest =>
    rw [Inbox.poll, if_pos (h.ready (by simp [hwaiting])), hwaiting]
    cases arrival with
    | failure cause => exact Nat.le_refl _
    | datagram bytes =>
      rw [drain_datagram]
      split
      · exact Nat.le_refl _
      · have hlength := length_waiting_drain identifier steps rest (i.buffer.fill bytes).1
        exact Nat.le_trans (Nat.le_add_right ..) hlength

theorem poll_of_empty {i : Inbox} (h : i.waiting = []) (identifier : UInt16) (steps : Nat) :
    (i.poll identifier steps).1 = none ∧ (i.poll identifier steps).2.2.1.waiting = [] := by
  obtain ⟨read, hread⟩ := i.reads_poll identifier steps
  have hsplit := hread.split
  rw [h] at hsplit
  obtain ⟨hnothing, hrest⟩ := List.append_eq_nil_iff.mp hsplit.symm
  have hreply := hread.filterMap
  rw [hnothing] at hreply
  exact ⟨Option.toList_eq_nil_iff.mp hreply.symm, hrest⟩

/-- A reply at the front is what the next poll comes to. -/
theorem Intact.poll_cons {i : Inbox} (h : i.Intact) {arrival : Arrival} {rest : List Arrival}
    {identifier : UInt16} {address : Address} (hwaiting : i.waiting = arrival :: rest)
    (hreply : arrival.reply? identifier = some address) {steps : Nat} (hsteps : 0 < steps) :
    (i.poll identifier steps).1 = some address ∧
      (i.poll identifier steps).2.2.1.waiting = rest := by
  obtain ⟨steps, rfl⟩ := Nat.exists_eq_succ_of_ne_zero (Nat.ne_of_gt hsteps)
  rw [Inbox.poll, if_pos (h.ready (by simp [hwaiting])), hwaiting]
  cases arrival with
  | failure cause => cases hreply
  | datagram bytes =>
    rw [drain_datagram]
    change (Echo.replySource identifier (bytes.take 2048)).1 = some address at hreply
    cases hsource : Echo.replySource identifier (bytes.take 2048) with
    | mk source events =>
      rw [hsource] at hreply
      cases hreply
      exact ⟨rfl, rfl⟩

/-! ## What reading makes of an inbox -/

/-- What becomes of an inbox that is read up to a reply, or in vain. -/
structure Serves (identifier : UInt16) (i : Inbox) (reply : Option Address) (j : Inbox) :
    Prop where
  reads : ∃ read, Reads identifier i.waiting reply j.waiting read
  intact : i.Intact → j.Intact

theorem Serves.refl (identifier : UInt16) (i : Inbox) : Serves identifier i none i where
  reads := ⟨[], .nil identifier i.waiting⟩
  intact := id

theorem Serves.trans {i j k : Inbox} {reply : Option Address} (h : Serves identifier i none j)
    (hlater : Serves identifier j reply k) : Serves identifier i reply k where
  reads := by
    obtain ⟨read, hread⟩ := h.reads
    obtain ⟨later, hfurther⟩ := hlater.reads
    exact ⟨read ++ later, hread.trans hfurther⟩
  intact := fun hintact => hlater.intact (h.intact hintact)

theorem serves_poll (identifier : UInt16) (i : Inbox) (steps : Nat) :
    Serves identifier i (i.poll identifier steps).1 (i.poll identifier steps).2.2.1 where
  reads := i.reads_poll identifier steps
  intact := fun hintact => hintact.poll identifier steps

/-- An inbox behind any number of polls, all of which were in vain but the last one perhaps. -/
inductive Polled (identifier : UInt16) (i : Inbox) : Option Address → Inbox → Prop
  | refl : Polled identifier i none i
  | poll {j k : Inbox} {reply : Option Address} (steps : Nat) : Polled identifier i none j →
    (j.poll identifier steps).1 = reply → (j.poll identifier steps).2.2.1 = k →
    Polled identifier i reply k

namespace Polled

variable {i j k : Inbox} {reply : Option Address}

theorem trans (h : Polled identifier i none j) (hlater : Polled identifier j reply k) :
    Polled identifier i reply k := by
  induction hlater with
  | refl => exact h
  | poll steps _ hreply hinbox ih => exact ih.poll steps hreply hinbox

theorem serves (h : Polled identifier i reply j) : Serves identifier i reply j := by
  induction h with
  | refl => exact .refl identifier i
  | poll steps _ hreply hinbox ih =>
    subst hreply hinbox
    exact ih.trans (serves_poll identifier _ steps)

end Polled

/-! ## Buffers -/

/-- Two inboxes that differ at most in what is left in the buffer. -/
structure Alike (i j : Inbox) : Prop where
  waiting : i.waiting = j.waiting
  ready : i.ready = j.ready

/-- The answer of a poll, but for what it leaves in the buffer. -/
structure AlikeAnswers (a b : Option Address × Nat × Inbox × List Event) : Prop where
  reply : a.1 = b.1
  steps : a.2.1 = b.2.1
  inbox : Alike a.2.2.1 b.2.2.1
  events : a.2.2.2 = b.2.2.2

theorem alike_drain (steps : Nat) (waiting : List Arrival) (buffer other : ReceiveBuffer) :
    AlikeAnswers (drain identifier steps waiting buffer)
      (drain identifier steps waiting other) := by
  induction steps generalizing waiting buffer other with
  | zero => exact ⟨rfl, rfl, ⟨rfl, rfl⟩, rfl⟩
  | succ steps ih =>
    match waiting with
    | [] => exact ⟨rfl, rfl, ⟨rfl, rfl⟩, rfl⟩
    | .failure cause :: rest => exact ⟨rfl, rfl, ⟨rfl, rfl⟩, rfl⟩
    | .datagram bytes :: rest =>
      rw [drain_datagram, drain_datagram]
      split
      · exact ⟨rfl, rfl, ⟨rfl, rfl⟩, rfl⟩
      · obtain ⟨hreply, hsteps, hinbox, hevents⟩ :=
          ih rest (buffer.fill bytes).1 (other.fill bytes).1
        exact ⟨hreply, hsteps, hinbox, congrArg (_ ++ ·) hevents⟩

theorem Alike.arrive {i j : Inbox} (h : Alike i j) (arrivals : List Arrival) :
    Alike (i.arrive arrivals) (j.arrive arrivals) := by
  refine ⟨?_, ?_⟩
  · simp only [Inbox.arrive, h.waiting]
  · simp only [Inbox.arrive, h.ready]

theorem Alike.poll {i j : Inbox} (h : Alike i j) (identifier : UInt16) (steps : Nat) :
    AlikeAnswers (i.poll identifier steps) (j.poll identifier steps) := by
  unfold Inbox.poll
  rw [h.ready, h.waiting]
  split
  · exact alike_drain steps j.waiting i.buffer j.buffer
  · exact ⟨rfl, rfl, h, rfl⟩

end Inbox

end PingTun
