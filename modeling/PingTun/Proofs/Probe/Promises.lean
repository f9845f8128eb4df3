-- SUMMARY: Requests as promises of replies, and accounts of which promises a trace has kept.
import Mathlib.Data.List.Forall2
import Mathlib.Data.Nat.Bitwise
import PingTun.Proofs.Probe.Trace

/-! # Promises

A request that is answered promises a reply from its own address, once the delay has passed. An
account of a trace says which promises its replies kept, reply by reply, and which are still open.
Every promise is on the account once, and no promise is kept while another is open that is due
before.
-/

namespace PingTun

/-! ## Networks -/

namespace Network

/-- Whether an address agrees with the network's on the network's leading bits. -/
def Covers (n : Network) (a : Address) : Prop :=
  ∀ i < n.bits, a.toNat.testBit (31 - i) = n.address.toNat.testBit (31 - i)

instance (n : Network) (a : Address) : Decidable (n.Covers a) :=
  inferInstanceAs (Decidable (∀ i < n.bits, _))

theorem contains_iff_covers (n : Network) (a : Address) : n.contains a = true ↔ n.Covers a := by
  have hbits := n.bits_le
  rw [contains, beq_iff_eq]
  constructor
  · intro heq i hi
    have hbit := congrArg (Nat.testBit · (n.bits - 1 - i)) heq
    simp only [Nat.testBit_shiftRight] at hbit
    rwa [show 32 - n.bits + (n.bits - 1 - i) = 31 - i by omega] at hbit
  · intro hcovers
    apply Nat.eq_of_testBit_eq
    intro j
    rw [Nat.testBit_shiftRight, Nat.testBit_shiftRight]
    by_cases hj : j < n.bits
    · have := hcovers (n.bits - 1 - j) (by omega)
      rwa [show 31 - (n.bits - 1 - j) = 32 - n.bits + j by omega] at this
    · -- There are no bits in front of the first of the 32.
      have hpow : UInt32.size ≤ 2 ^ (32 - n.bits + j) :=
        show 2 ^ 32 ≤ _ from Nat.pow_le_pow_right (by omega) (by omega)
      have hlarge (b : Address) : b.toNat.testBit (32 - n.bits + j) = false :=
        Nat.testBit_lt_two_pow (Nat.lt_of_lt_of_le b.toNat_lt hpow)
      rw [hlarge, hlarge]

end Network

/-! ## Promises -/

/-- What a request that is answered promises: a reply from its address, counted from the time at
which it was sent. -/
structure Promise where
  sent : Nat
  address : Address
deriving DecidableEq

namespace ProbeConfig

/-- Whether a simulation answers a ping: it fits into a datagram, and its address is not in the
network that never replies. -/
def Answers (c : ProbeConfig) (ping : Ping) : Prop :=
  ping.payloadSize.toNat ≤ 65507 ∧ ¬ c.unreachable.Covers ping.address

instance (c : ProbeConfig) (ping : Ping) : Decidable (c.Answers ping) :=
  inferInstanceAs (Decidable (_ ∧ _))

/-- How long a reply takes, on the clock: the delay, or an hour if it is longer. -/
def replyTime (c : ProbeConfig) : Nat := Clock.ofMilliseconds (min c.replyDelay.toNat 3600000)

/-- When a promise is to be kept: after the delay, rounded up to a whole millisecond. -/
def dueTime (c : ProbeConfig) (promise : Promise) : Nat :=
  Clock.roundUp (promise.sent + c.replyTime)

theorem le_dueTime (c : ProbeConfig) (promise : Promise) :
    promise.sent + c.replyTime ≤ c.dueTime promise :=
  Clock.le_roundUp _

/-- What is sent at a whole millisecond is due at one. -/
theorem dueTime_ofMilliseconds (c : ProbeConfig) (n : Nat) (address : Address) :
    c.dueTime ⟨Clock.ofMilliseconds n, address⟩ = Clock.ofMilliseconds n + c.replyTime := by
  rw [dueTime, replyTime, Clock.ofMilliseconds, Clock.ofMilliseconds, ← Nat.add_mul]
  exact Clock.roundUp_ofMilliseconds _

/-- The promise as a reply that is still to come. -/
def outstanding (c : ProbeConfig) (promise : Promise) : Outstanding :=
  ⟨c.dueTime promise, promise.address⟩

end ProbeConfig

namespace Probe

namespace Moment

/-- The promise that is made in a step, if it sends a ping that is answered. -/
def promise? (c : ProbeConfig) (m : Moment) : Option Promise :=
  match m.step with
  | .send _ ping => if c.Answers ping then some ⟨m.time, ping.address⟩ else none
  | _ => none

/-- What is promised depends on the step and the time only. -/
theorem promise?_congr {c : ProbeConfig} {m n : Moment} (hstep : m.step = n.step)
    (htime : m.time = n.time) : m.promise? c = n.promise? c := by
  rw [promise?, promise?, hstep, htime]

/-- The reply that a step yields, and when. -/
def reply? (m : Moment) : Option (Nat × Address) := m.outcome.reply?.map (m.time, ·)

end Moment

/-- All promises that are made in a trace. -/
def promises (c : ProbeConfig) (log : List Moment) : List Promise :=
  log.filterMap (·.promise? c)

/-- All replies of a trace, with their times. -/
def replies (log : List Moment) : List (Nat × Address) := log.filterMap (·.reply?)

theorem promises_append (c : ProbeConfig) (log later : List Moment) :
    promises c (log ++ later) = promises c log ++ promises c later :=
  List.filterMap_append

theorem replies_append (log later : List Moment) :
    replies (log ++ later) = replies log ++ replies later :=
  List.filterMap_append

theorem promises_cons (c : ProbeConfig) (m : Moment) (log : List Moment) :
    promises c (m :: log) = (m.promise? c).toList ++ promises c log := by
  cases hpromise : m.promise? c with
  | none => simp [promises, hpromise]
  | some promise => simp [promises, hpromise]

theorem promises_concat (c : ProbeConfig) (log : List Moment) (m : Moment) :
    promises c (log ++ [m]) = promises c log ++ (m.promise? c).toList := by
  rw [promises_append, promises_cons]
  exact congrArg _ (List.append_nil _)

theorem length_promises_le (c : ProbeConfig) (log : List Moment) :
    (promises c log).length ≤ log.length :=
  List.length_filterMap_le ..

/-- The addresses that are yielded one step later. -/
theorem map_replies_concat (log : List Moment) (m : Moment) :
    (replies (log ++ [m])).map (·.2) = (replies log).map (·.2) ++ m.outcome.reply?.toList := by
  rw [replies_append, List.map_append]
  cases hreply : m.outcome.reply? with
  | none => simp [replies, Moment.reply?, hreply]
  | some address => simp [replies, Moment.reply?, hreply]

/-- The promises of a trace that are due by a time. -/
def duePromises (c : ProbeConfig) (time : Nat) (log : List Moment) : List Promise :=
  (promises c log).filter fun promise => c.dueTime promise ≤ time

/-- If all promises that were kept are due, and no other is, they are those that are due. -/
theorem perm_duePromises {c : ProbeConfig} {log : List Moment} {kept owed : List Promise}
    {time : Nat} (h : (kept ++ owed).Perm (promises c log))
    (hkept : ∀ promise ∈ kept, c.dueTime promise ≤ time)
    (howed : ∀ promise ∈ owed, time < c.dueTime promise) :
    kept.Perm (duePromises c time log) := by
  have hall : kept.filter (fun promise => c.dueTime promise ≤ time) = kept :=
    List.filter_eq_self.mpr fun promise hmem => decide_eq_true (hkept promise hmem)
  have hnone : owed.filter (fun promise => c.dueTime promise ≤ time) = [] := by
    refine List.filter_eq_nil_iff.mpr fun promise hmem => ?_
    rw [decide_eq_true_eq]
    exact Nat.not_le_of_lt (howed promise hmem)
  have hfilter := h.filter fun promise => decide (c.dueTime promise ≤ time)
  rwa [List.filter_append, hall, hnone, List.append_nil] at hfilter

/-! ## Accounts -/

/-- Whether a reply keeps a promise: it comes from its address, and not before it is due. -/
def Keeps (c : ProbeConfig) (promise : Promise) (reply : Nat × Address) : Prop :=
  reply.2 = promise.address ∧ promise.sent + c.replyTime ≤ c.dueTime promise ∧
    c.dueTime promise ≤ reply.1

/-- An account of a trace: the promises that its replies kept, in the order of the replies, and
those that are still open. -/
structure Account (c : ProbeConfig) (log : List Moment) (kept owed : List Promise) : Prop where
  /-- Every promise is kept once or open, and nothing else is kept. -/
  perm : (kept ++ owed).Perm (promises c log)
  keeps : List.Forall₂ (Keeps c) kept (replies log)
  inOrder : kept.Pairwise fun promise later => c.dueTime promise ≤ c.dueTime later
  first : ∀ promise ∈ kept, ∀ other ∈ owed, c.dueTime promise ≤ c.dueTime other

namespace Account

variable {c : ProbeConfig} {log : List Moment} {kept owed : List Promise} {m : Moment}

theorem nil (c : ProbeConfig) : Account c [] [] [] where
  perm := .refl _
  keeps := .nil
  inOrder := .nil
  first := by
    intro promise hpromise
    cases hpromise

/-- A step that neither makes a promise nor keeps one is not on the account. -/
theorem pass (h : Account c log kept owed) (hpromise : m.promise? c = none)
    (hreply : m.reply? = none) : Account c (log ++ [m]) kept owed :=
  { h with
    perm := by simpa [promises, hpromise] using h.perm
    keeps := by simpa [replies, hreply] using h.keeps }

/-- A promise that is made is open, and no other was kept that is due later. -/
theorem promise {promise : Promise} (h : Account c log kept owed)
    (hpromise : m.promise? c = some promise) (hreply : m.reply? = none)
    (hlast : ∀ other ∈ kept, c.dueTime other ≤ c.dueTime promise) :
    Account c (log ++ [m]) kept (promise :: owed) :=
  { h with
    perm := by
      have hmade : promises c (log ++ [m]) = promises c log ++ [promise] := by
        simp [promises, hpromise]
      rw [hmade]
      have hcons := List.perm_middle.trans (h.perm.cons promise)
      exact hcons.trans (List.perm_append_singleton ..).symm
    keeps := by simpa [replies, hreply] using h.keeps
    first := by
      intro before hbefore other hother
      rcases List.mem_cons.mp hother with rfl | hmem
      · exact hlast before hbefore
      · exact h.first before hbefore other hmem }

/-- An open promise is kept by a reply if no other is due before. -/
theorem keep {promise : Promise} {rest : List Promise} {reply : Nat × Address}
    (h : Account c log kept owed) (howed : owed.Perm (promise :: rest))
    (hpromise : m.promise? c = none) (hreply : m.reply? = some reply)
    (hkeeps : Keeps c promise reply)
    (hfirst : ∀ other ∈ rest, c.dueTime promise ≤ c.dueTime other) :
    Account c (log ++ [m]) (kept ++ [promise]) rest where
  perm := by
    have hmade : promises c (log ++ [m]) = promises c log := by simp [promises, hpromise]
    rw [hmade, List.append_assoc]
    exact (howed.symm.append_left kept).trans h.perm
  keeps := by
    have hgiven : replies (log ++ [m]) = replies log ++ [reply] := by simp [replies, hreply]
    rw [hgiven]
    exact List.rel_append h.keeps (.cons hkeeps .nil)
  inOrder := by
    refine List.pairwise_append.mpr ⟨h.inOrder, List.pairwise_singleton .., ?_⟩
    intro before hbefore other hother
    rw [List.mem_singleton.mp hother]
    exact h.first before hbefore promise (howed.mem_iff.mpr List.mem_cons_self)
  first := by
    intro before hbefore other hother
    rcases List.mem_append.mp hbefore with hmem | hmem
    · exact h.first before hmem other (howed.mem_iff.mpr (List.mem_cons_of_mem _ hother))
    · rw [List.mem_singleton.mp hmem]
      exact hfirst other hother

/-- The replies come from the addresses of the promises that they keep. -/
theorem map_address (h : Account c log kept owed) :
    (replies log).map (·.2) = kept.map (·.address) := by
  have hkeeps := h.keeps
  clear h
  generalize replies log = given at hkeeps
  induction hkeeps with
  | nil => rfl
  | cons hkeep _ ih => rw [List.map_cons, List.map_cons, ih, hkeep.1]

end Account

end Probe

end PingTun
