-- SUMMARY: What a poll in vain leaves unread at a socket: nothing, or what stands behind a read that failed.
import PingTun.Proofs.Probe.Opening

/-! # What is left unread

A read that fails ends a poll like a read that finds nothing: the socket counts as ready no longer.
But only in the second case is the socket known to be empty. What stands behind a failure is left
there, and no poll looks at it before something else arrives.
-/

namespace PingTun

namespace Inbox

variable {identifier : UInt16} {i j : Inbox} {read waiting : List Arrival} {reply : Option Address}

/-! ## Readiness -/

/-- If the socket is not ready, then nothing waits at it, or the last that was read of it is a
failure. -/
def Explained (read : List Arrival) (i : Inbox) : Prop :=
  i.ready = false → i.waiting = [] ∨ ∃ cause, read.getLast? = some (.failure cause)

theorem Explained.arrive (h : Explained read i) (arrivals : List Arrival) :
    Explained read (i.arrive arrivals) := by
  cases arrivals with
  | nil =>
    rw [arrive_nil]
    exact h
  | cons arrival arrivals =>
    intro hready
    simp [Inbox.arrive] at hready

/-- A socket is ready no longer once it is empty, or right behind a failure. -/
theorem unready_drain {steps : Nat} {buffer : ReceiveBuffer}
    (h : (drain identifier steps waiting buffer).2.2.1.ready = false) :
    (drain identifier steps waiting buffer).2.2.1.waiting = [] ∨
      ∃ front cause, waiting = front ++ .failure cause ::
        (drain identifier steps waiting buffer).2.2.1.waiting := by
  induction steps generalizing waiting buffer with
  | zero => cases h
  | succ steps ih =>
    match waiting with
    | [] => exact .inl rfl
    | .failure cause :: rest => exact .inr ⟨[], cause, rfl⟩
    | .datagram bytes :: rest =>
      rw [drain_datagram] at h ⊢
      split at h
      · cases h
      · rename_i hnone
        rw [if_neg hnone]
        rcases ih h with hempty | ⟨front, cause, hfront⟩
        · exact .inl hempty
        · exact .inr ⟨.datagram bytes :: front, cause, congrArg (.datagram bytes :: ·) hfront⟩

/-- A poll in vain reads until the socket is ready no longer, or as much as it may. -/
theorem ready_or_spent_of_drain {steps : Nat} {buffer : ReceiveBuffer}
    (h : (drain identifier steps waiting buffer).1 = none) :
    (drain identifier steps waiting buffer).2.2.1.ready = false ∨
      waiting.length = (drain identifier steps waiting buffer).2.2.1.waiting.length + steps := by
  induction steps generalizing waiting buffer with
  | zero => exact .inr rfl
  | succ steps ih =>
    match waiting with
    | [] => exact .inl rfl
    | .failure cause :: rest => exact .inl rfl
    | .datagram bytes :: rest =>
      rw [drain_datagram] at h ⊢
      split at h
      · rename_i hsome
        rw [h] at hsome
        cases hsome
      · rename_i hnone
        rw [if_neg hnone]
        exact (ih h).imp_right (congrArg (· + 1))

theorem ready_or_spent_of_poll {steps : Nat} (h : (i.poll identifier steps).1 = none) :
    (i.poll identifier steps).2.2.1.ready = false ∨
      i.waiting.length = (i.poll identifier steps).2.2.1.waiting.length + steps := by
  unfold poll at h ⊢
  split
  · rename_i hready
    rw [if_pos hready] at h
    exact ready_or_spent_of_drain h
  · rename_i hready
    exact .inl (Bool.eq_false_iff.mpr hready)

/-- Once more has been read, that explains what the socket has become. -/
theorem Explained.poll {later : List Arrival} {steps : Nat} (h : Explained read i)
    (hread : i.waiting = later ++ (i.poll identifier steps).2.2.1.waiting) :
    Explained (read ++ later) (i.poll identifier steps).2.2.1 := by
  intro hunready
  unfold Inbox.poll at hread hunready ⊢
  split at hread
  · rename_i hready
    rw [if_pos hready] at hunready ⊢
    rcases unready_drain hunready with hempty | ⟨front, cause, hfront⟩
    · exact .inl hempty
    · right
      have hlater : later = front ++ [.failure cause] := by
        apply List.append_cancel_right
        rw [← hread, List.append_assoc]
        exact hfront
      exact ⟨cause, by rw [hlater, ← List.append_assoc, List.getLast?_concat]⟩
  · rename_i hready
    rw [if_neg hready] at hunready ⊢
    have hlater : later = [] := List.self_eq_append_left.mp hread
    rw [hlater, List.append_nil]
    exact h hunready

theorem Explained.polled (h : Explained read i) (hpolled : Polled identifier i reply j) :
    ∃ later, Reads identifier i.waiting reply j.waiting later ∧ Explained (read ++ later) j := by
  induction hpolled with
  | refl =>
    refine ⟨[], .nil identifier i.waiting, ?_⟩
    rw [List.append_nil]
    exact h
  | @poll j k reply steps _ hreply hinbox ih =>
    subst hreply hinbox
    obtain ⟨before, hbefore, hexplained⟩ := ih
    obtain ⟨later, hlater⟩ := j.reads_poll identifier steps
    refine ⟨before ++ later, hbefore.trans hlater, ?_⟩
    rw [← List.append_assoc]
    exact hexplained.poll hlater.split

/-- A socket that is not ready is not read. -/
theorem Polled.eq_of_unready (h : Polled identifier i reply j) (hunready : i.ready = false) :
    reply = none ∧ j = i := by
  induction h with
  | refl => exact ⟨rfl, rfl⟩
  | @poll j k reply steps _ hreply hinbox ih =>
    obtain ⟨-, rfl⟩ := ih
    rw [Inbox.poll, if_neg (by simp [hunready])] at hreply hinbox
    exact ⟨hreply.symm, hinbox.symm⟩

end Inbox

namespace Probe

namespace Listens

variable {identifier : UInt16} {socket : Descriptor} {i : Inbox} {read : List Arrival}

/-! ## Runs -/

/-- Whatever is done to a probe, the last that was read explains why its socket is not ready. -/
theorem explained {s : Scene} (h : Listens identifier socket i s.probe)
    (hexplained : i.Explained read) (steps : List Step) :
    ∃ j, Listens identifier socket j (s.run steps).probe ∧
      ∃ later, i.waiting ++ steps.flatMap Step.arrivals = later ++ j.waiting ∧
        (s.trace steps).filterMap (·.outcome.reply?) = later.filterMap (·.reply? identifier) ∧
        j.Explained (read ++ later) := by
  induction steps generalizing s i read with
  | nil =>
    refine ⟨i, h, [], List.append_nil _, rfl, ?_⟩
    rw [List.append_nil]
    exact hexplained
  | cons step steps ih =>
    obtain ⟨k, hlistens, hpolled⟩ := h.polled step
    obtain ⟨now, hread, hnow⟩ := (hexplained.arrive step.arrivals).polled hpolled
    obtain ⟨j, hrun, later, hsplit, hreplies, hlater⟩ := ih hlistens hnow
    refine ⟨j, hrun, now ++ later, ?_, ?_, ?_⟩
    · calc
        i.waiting ++ (step :: steps).flatMap Step.arrivals
          = (i.arrive step.arrivals).waiting ++ steps.flatMap Step.arrivals := by
          rw [List.flatMap_cons, ← List.append_assoc]
          rfl
        _ = now ++ (k.waiting ++ steps.flatMap Step.arrivals) := by
          rw [hread.split, List.append_assoc]
        _ = now ++ later ++ j.waiting := by rw [hsplit, List.append_assoc]
    · have hstep := hread.filterMap
      rw [Scene.trace_cons, List.filterMap_append, hstep, ← hreplies]
      cases hreply : (s.moment step).outcome.reply? with
      | none => simp [hreply]
      | some address => simp [hreply]
    · rw [← List.append_assoc]
      exact hlater

/-- As long as nothing arrives, nothing is read of a socket that is not ready. -/
theorem unready {s : Scene} (h : Listens identifier socket i s.probe) (hunready : i.ready = false)
    {steps : List Step} (hquiet : steps.flatMap Step.arrivals = []) :
    (s.run steps).probe.waiting = i.waiting ∧
      (s.trace steps).filterMap (·.outcome.reply?) = [] := by
  induction steps generalizing s with
  | nil => exact ⟨h.waiting_eq, rfl⟩
  | cons step steps ih =>
    rw [List.flatMap_cons, List.append_eq_nil_iff] at hquiet
    obtain ⟨hnothing, hquiet⟩ := hquiet
    obtain ⟨k, hlistens, hpolled⟩ := h.polled step
    rw [hnothing, Inbox.arrive_nil] at hpolled
    obtain ⟨hreply, rfl⟩ := hpolled.eq_of_unready hunready
    obtain ⟨hwaiting, hreplies⟩ := ih hlistens hquiet
    refine ⟨hwaiting, ?_⟩
    rw [Scene.trace_cons, List.filterMap_cons_none (f := fun m : Moment => m.outcome.reply?) hreply]
    exact hreplies

end Listens

/-! ## Polls in vain -/

/-- Whatever has been done to a probe over an open socket, and whatever has arrived: the probe has
yielded the replies among what was read so far. When a poll is in vain, nothing else has arrived; or
what was read last is a failure, and of what stands behind it nothing is read or yielded before
something more arrives; or the poll has read as many datagrams as it may in one turn. -/
theorem unread_of_pending (start : Nat) (c : ProbeConfig) (identifier : UInt16) (host : Host)
    (steps : List Step)
    (hopen : (Scene.opened start c identifier host).probe.state = .socketOpen)
    (hpending : (((Scene.opened start c identifier host).run steps).moment .poll).outcome =
      .pending) :
    let s := Scene.opened start c identifier host
    let before := s.run steps
    let after := (before.moment .poll).after
    ∃ read, steps.flatMap Step.arrivals = read ++ after.probe.waiting ∧
      (s.trace steps).filterMap (·.outcome.reply?) = read.filterMap (·.reply? identifier) ∧
      (after.probe.waiting = [] ∨
        (∃ cause, read.getLast? = some (.failure cause) ∧
          ∀ later, later.flatMap Step.arrivals = [] →
            (after.run later).probe.waiting = after.probe.waiting ∧
              (after.trace later).filterMap (·.outcome.reply?) = []) ∨
        before.probe.waiting.length = after.probe.waiting.length + 128) := by
  intro s before after
  obtain ⟨socket, hlistens, -⟩ := listens_opened hopen
  have hfresh : Inbox.Explained [] {} := fun _ => .inl rfl
  obtain ⟨i, hbefore, read, hsplit, hreplies, hexplained⟩ := hlistens.explained hfresh steps
  have hpoll := Scene.moment_poll (hbefore.pollWithin_eq before.time EventLoop.stepsPerTurn)
  let j := (i.poll identifier EventLoop.stepsPerTurn).2.2.1
  have hafter : Listens identifier socket j after.probe := by
    simp only [after, hpoll]
    exact ⟨hbefore.identifier_eq, rfl⟩
  have hvain : (i.poll identifier EventLoop.stepsPerTurn).1 = none := by
    rw [hpoll] at hpending
    exact (Outcome.reply?_ofReply _).symm.trans (congrArg Outcome.reply? hpending)
  obtain ⟨last, hlast⟩ := i.reads_poll identifier EventLoop.stepsPerTurn
  refine ⟨read ++ last, ?_, ?_, ?_⟩
  · rw [hafter.waiting_eq, List.append_assoc]
    exact hsplit.trans (congrArg (read ++ ·) hlast.split)
  · rw [List.filterMap_append, hlast.filterMap, hvain]
    simpa using hreplies
  · rw [hafter.waiting_eq, hbefore.waiting_eq]
    rcases Inbox.ready_or_spent_of_poll hvain with hunready | hspent
    · rcases hexplained.poll hlast.split hunready with hempty | ⟨cause, hcause⟩
      · exact .inl hempty
      · exact .inr (.inl ⟨cause, hcause, fun later hquiet => hafter.unready hunready hquiet⟩)
    · exact .inr (.inr hspent)

/-- Behind a failure that is read a datagram is left, and the poll is in vain. -/
theorem unread_of_pending_failed :
    let s := Scene.opened 0 {} 0x1234 { script := ({} : Refusals).script 5 }
    let steps : List Step := [.arrive [.datagram [1], .failure ⟨113⟩, .datagram [2]]]
    s.probe.state = .socketOpen ∧ ((s.run steps).moment .poll).outcome = .pending ∧
      ∃ read, read.getLast? = some (.failure ⟨113⟩) ∧
        steps.flatMap Step.arrivals = read ++ [.datagram [2]] := by
  intro s steps
  have hopen : s.probe.state = .socketOpen := by decide
  have hpending : ((s.run steps).moment .poll).outcome = .pending := by decide +kernel
  have hwaiting : ((s.run steps).moment .poll).after.probe.waiting = [.datagram [2]] := by
    decide +kernel
  refine ⟨hopen, hpending, ?_⟩
  obtain ⟨read, hsplit, -, -⟩ :=
    unread_of_pending 0 {} 0x1234 { script := ({} : Refusals).script 5 } steps hopen hpending
  rw [hwaiting] at hsplit
  have hread : read = [.datagram [1], .failure ⟨113⟩] := List.append_cancel_right hsplit.symm
  exact ⟨read, by rw [hread]; rfl, hsplit⟩

/-- A read fails, and behind the failure stands a reply to the probe. A poll comes to nothing with
the reply still unread, and so does every further one. -/
theorem reply_left_unread :
    let s := Scene.opened 0 {} 0x1234 { script := ({} : Refusals).script 5 }
    let reply : Arrival := .datagram [0x45, 0, 0, 28, 0, 0, 0, 0, 64, 1, 0, 0, 1, 1, 1, 1, 10, 0, 0, 2,
      0, 0, 0xED, 0xCB, 0x12, 0x34, 0, 0]
    let arrived := s.run [.arrive [.failure ⟨113⟩, reply]]
    s.probe.state = .socketOpen ∧ reply.reply? 0x1234 = some ⟨1, 1, 1, 1⟩ ∧
      (arrived.moment .poll).outcome = .pending ∧
      (arrived.moment .poll).after.probe.waiting = [reply] ∧
      ∀ polls, (arrived.trace (List.replicate polls .poll)).filterMap (·.outcome.reply?) = [] := by
  intro s reply arrived
  refine ⟨by decide, by decide +kernel, by decide +kernel, by decide +kernel, ?_⟩
  intro polls
  cases polls with
  | zero => rfl
  | succ polls =>
    have hlistens : Listens 0x1234 0 ⟨[reply], false, .empty⟩ (arrived.moment .poll).after.probe :=
      ⟨rfl, rfl⟩
    have hquiet : (List.replicate polls Step.poll).flatMap Step.arrivals = [] := by
      simp [Step.arrivals]
    exact (hlistens.unready rfl hquiet).2

end Probe

end PingTun
