-- SUMMARY: Whose reply a line of a simulated run reports: one that is due in the wait of the request it names.
import PingTun.Proofs.CommandLine.Windows

/-! # Attribution of replies

Replies come without a sequence number, and are reported under the one of the latest request. So the
reply that a line reports may be the one to an earlier request than that whose number the line
names; it is due in the wait behind the latter. If the delay is shorter than a wait, it is that
request's own reply, and if it is longer, it never is.
-/

namespace PingTun.CommandLine

open Probe

variable {c : ProbeConfig} {a : PingArguments} {number : Nat} {line : ReplyLine}

/-- Whether a report is of a reply. -/
def Report.isReply : Report → Bool
  | .reply .. => true
  | .sendFailed _ | .total .. => false

/-! ## Requests that are too large -/

section

variable (hlarge : Echo.maxPayload < a.payloadSize.toNat)
include hlarge

theorem sendPing_of_lt (s : Surroundings) (session : Session) (host : Host) :
    sendPing s a.ping session host =
      ((false, { session with probe := session.probe.arrive [] }), host) := by
  obtain ⟨events, hsend⟩ : ∃ events,
      session.probe.sendAt session.now (s.wallClock session.now) a.ping host =
        ((false, session.probe, events), host) := by
    by_cases hstate : session.probe.state = .socketFailed
    · exact ⟨_, sendAt_failed (state_eq_socketFailed.mp hstate)⟩
    · exact ⟨_, sendAt_of_lt hstate hlarge⟩
  have hget : (get : StateM Host Host) host = (host, host) := rfl
  simp only [sendPing, Host.bind_of_eq hget, Host.bind_of_eq hsend, Nat.sub_self,
    List.range'_zero, List.flatMap_nil]
  rfl

-- As in the request that is sent, the time to wait is a variable.
theorem request_of_lt {wait : Nat} (hduration : Clock.ofMilliseconds a.wait.toNat = wait)
    (s : Surroundings) (number : Nat) (session : Session) (host : Host) :
    request s a number session host =
      (([(session.now, .sendFailed session.probe.nextSequence)],
        { session with probe := session.probe.arrive [] }), host) := by
  unfold request
  rw [hduration]
  simp only [bind, StateT.bind, sendPing_of_lt hlarge s session host]
  rfl

/-- A request that does not fit into a datagram is not sent, so that nothing is waited for. -/
theorem isReply_of_lt (s : Surroundings) (count number : Nat) (session : Session) (host : Host) :
    ∀ report ∈ (requests s a count number [] session host).1.1, report.2.isReply = false := by
  induction count generalizing number session with
  | zero => exact List.forall_mem_nil _
  | succ count ih =>
    simp only [requests, bind, StateT.bind, request_of_lt hlarge rfl s number session host]
    rw [requests_eq]
    exact List.forall_mem_cons.mpr ⟨rfl, ih (number + 1) _⟩

end

/-! ## Requests of a run -/

/-- Where a run stands in front of a request. -/
def front (s : Surroundings) (a : PingArguments) (probe : Probe) (host : Host) (number : Nat) :
    Session × Host :=
  let ((_, session), left) := requests s a number 0 [] { probe, now := 0 } host
  (session, left)

/-- Whether a request of a run carries its number, and what is to come behind it is what was to come
before it and its own reply, due after the delay. -/
structure Schedules (s : Surroundings) (c : ProbeConfig) (a : PingArguments) (probe : Probe)
    (host : Host) (number : Nat) : Prop where
  now : (front s a probe host number).1.now = sentAt a number
  sequence : (front s a probe host number).1.probe.nextSequence = number.toUInt16
  schedules : ∃ (before after : Simulation) (session : Session),
    (front s a probe host number).1.probe.backend = .simulated before ∧
    (sendPing s a.ping (front s a probe host number).1 (front s a probe host number).2).1 =
      (true, session) ∧
    session.probe.backend = .simulated after ∧
    after.entries.Perm (replyTo c a number :: before.entries)

theorem schedules_of_fits (hfits : a.payloadSize.toNat ≤ 65507)
    (hcovers : ¬ c.unreachable.Covers a.address) (s : Surroundings) (identifier : UInt16)
    (host : Host) (number : Nat) :
    Schedules s c a { identifier, backend := .simulated (.ofConfig c) } host number := by
  obtain ⟨session, lines, answered, owed, hrun, hfront⟩ :=
    (underway_opened c a identifier).requests hfits s host number
  rw [Nat.zero_add] at hfront
  obtain ⟨q, hsend, -, hq⟩ := hfront.simulates_of_send hfits s host
  obtain ⟨before, hbefore, -, -, hcoming⟩ := hfront.simulates
  obtain ⟨after, hafter, -, -, hscheduled⟩ := hq
  have hstands : front s a { identifier, backend := .simulated (.ofConfig c) } host number =
      (session, host) := by
    simp only [front, hrun]
  rw [repliedTo, if_neg hcovers] at hscheduled
  refine ⟨?_, ?_, before, after, { session with probe := q }, ?_, ?_, hafter, ?_⟩
  · rw [hstands, hfront.now]
  · rw [hstands, hfront.sequence]
  · rw [hstands, hbefore]
  · rw [hstands, hsend]
  · exact hscheduled.trans (hcoming.symm.cons _)

/-! ## Lines -/

/-- Whether a line tells of the reply to a request: that request scheduled it, it comes from the
address that was pinged, and it is due in the wait behind the request that carried the number which
the line names. The latter is the request itself or a later one. -/
structure Tells (s : Surroundings) (c : ProbeConfig) (a : PingArguments) (probe : Probe)
    (host : Host) (number : Nat) (line : ReplyLine) : Prop extends Reports c a number line where
  scheduled : Schedules s c a probe host number
  named : Schedules s c a probe host line.window
  begin_le_due : sentAt a line.window ≤ dueAt c a number

theorem sentAt_mono (a : PingArguments) {number later : Nat} (h : number ≤ later) :
    sentAt a number ≤ sentAt a later :=
  Nat.mul_le_mul_right _ (Nat.mul_le_mul_right _ h)

theorem ofMilliseconds_lt {n m : Nat} (h : n < m) :
    Clock.ofMilliseconds n < Clock.ofMilliseconds m :=
  Nat.mul_lt_mul_of_pos_right h (by decide)

namespace Tells

variable {s : Surroundings} {probe : Probe} {host : Host}

/-- With a delay that is shorter than a wait, the reply is the one to the request that is named. -/
theorem eq_window (h : Tells s c a probe host number line)
    (hlt : c.effectiveDelay < a.wait.toNat) : number = line.window := by
  refine Nat.le_antisymm h.sent (Nat.le_of_not_lt fun hlater => ?_)
  refine absurd h.begin_le_due (Nat.not_le.mpr ?_)
  calc dueAt c a number
    _ = sentAt a number + Clock.ofMilliseconds c.effectiveDelay := rfl
    _ < sentAt a number + Clock.ofMilliseconds a.wait.toNat :=
      Nat.add_lt_add_left (ofMilliseconds_lt hlt) _
    _ = sentAt a (number + 1) := (sentAt_succ a number).symm
    _ ≤ sentAt a line.window := sentAt_mono a hlater

/-- With a delay that is longer than a wait, the reply is one to an earlier request. -/
theorem lt_window (h : Tells s c a probe host number line)
    (hlt : a.wait.toNat < c.effectiveDelay) : number < line.window := by
  refine Nat.lt_of_le_of_ne h.sent fun hown => ?_
  refine absurd (Nat.le_trans h.due_le h.le_end) (Nat.not_le.mpr ?_)
  calc sentAt a (line.window + 1)
    _ = sentAt a number + Clock.ofMilliseconds a.wait.toNat := by rw [← hown, sentAt_succ]
    _ < sentAt a number + Clock.ofMilliseconds c.effectiveDelay :=
      Nat.add_lt_add_left (ofMilliseconds_lt hlt) _
    _ = dueAt c a number := rfl

end Tells

/-! ## Runs -/

theorem filter_isReply_report (lines : List ReplyLine) :
    (lines.map ReplyLine.report).filter (·.2.isReply) = lines.map ReplyLine.report := by
  rw [List.filter_eq_self]
  exact List.forall_mem_map.mpr fun _ _ => rfl

/-- The lines of a run tell of the replies to some requests, no two of them of the same. -/
theorem tells_of_reports (s : Surroundings) (c : ProbeConfig) (identifier : UInt16)
    (a : PingArguments) (host : Host) :
    let probe : Probe := { identifier, backend := .simulated (.ofConfig c) }
    ∃ (lines : List ReplyLine) (answered : List Nat),
      (reports s a probe host).1.1.filter (·.2.isReply) = lines.map ReplyLine.report ∧
      (∀ line ∈ lines, line.window < a.count.toNat) ∧ answered.Nodup ∧
      List.Forall₂ (Tells s c a probe host) answered lines := by
  intro probe
  rcases Nat.lt_or_ge Echo.maxPayload a.payloadSize.toNat with hlarge | hfits
  · refine ⟨[], [], ?_, nofun, List.nodup_nil, .nil⟩
    have hnone := isReply_of_lt hlarge s a.count.toNat 0 { probe, now := 0 } host
    simp only [reports, bind, StateT.bind]
    generalize requests s a a.count.toNat 0 [] { probe, now := 0 } host = answer at hnone ⊢
    refine List.filter_eq_nil_iff.mpr fun report hmem => ?_
    rcases List.mem_append.mp hmem with hrequest | htotal
    · exact Bool.eq_false_iff.mp (hnone report hrequest)
    · rw [List.mem_singleton.mp htotal]
      exact Bool.false_ne_true
  · obtain ⟨session, lines, answered, owed, hreports, hend⟩ :=
      exists_reports c s identifier host hfits
    have hnodup : (answered ++ owed).Nodup := hend.perm.nodup_iff.mp (nodup_answerable c a _)
    refine ⟨lines, answered, ?_, hend.windows, (List.nodup_append.mp hnodup).1, ?_⟩
    · rw [hreports, List.filter_append, filter_isReply_report]
      exact List.append_nil _
    by_cases hcovers : c.unreachable.Covers a.address
    · have hnone : lines.length ≤ 0 := by simpa [answerable, hcovers] using hend.length_lines_le
      obtain rfl := List.eq_nil_of_length_eq_zero (Nat.le_zero.mp hnone)
      rw [List.forall₂_nil_right_iff.mp hend.reported]
      exact .nil
    · have hschedules := schedules_of_fits hfits hcovers s identifier host
      exact hend.reported.mp
        (fun number line hreport hpunctual =>
          ⟨hreport, hschedules number, hschedules line.window, hpunctual⟩) hend.punctual

/-- Whatever a run on a simulated probe prints of replies: each line tells of the reply to a request
that is due in the wait in which the line is printed, and no two lines tell of the same. With a delay
shorter than a wait, that is the request whose sequence number the line names, for all lines, and
with a longer one an earlier request, for all lines. -/
theorem attribution_of_simulation (s : Surroundings) (c : ProbeConfig) (identifier : UInt16)
    (a : PingArguments) (host : Host) (hsimulate : (c.simulate || a.simulate) = true) :
    let opened := Scene.openedUnder { running := true, now := 0 }
      { c with simulate := c.simulate || a.simulate } identifier host
    let log := (reports s a opened.probe opened.host).1.1
    (ping s c identifier a host).1 = .success (log.map (·.2.text)) ∧
      ∃ (lines : List ReplyLine) (answered : List Nat),
        log.filter (·.2.isReply) = lines.map ReplyLine.report ∧
        (∀ line ∈ lines, line.window < a.count.toNat) ∧ answered.Nodup ∧
        List.Forall₂ (Tells s c a opened.probe opened.host) answered lines ∧
        (c.effectiveDelay < a.wait.toNat → answered = lines.map ReplyLine.window) ∧
        (a.wait.toNat < c.effectiveDelay →
          List.Forall₂ (fun number line => number < line.window) answered lines) := by
  intro opened log
  have hopened : opened = ⟨0, host, { identifier, backend := .simulated (.ofConfig c) }⟩ :=
    openedUnder_simulated rfl hsimulate identifier host
  obtain ⟨lines, answered, hlog, hwindows, hnodup, htells⟩ :=
    tells_of_reports s c identifier a host
  refine ⟨?_, lines, answered, ?_, hwindows, hnodup, ?_, fun hlt => ?_, fun hlt => ?_⟩
  · rw [ping_simulated s identifier host hsimulate]
    show _ = Outcome.success ((reports s a opened.probe opened.host).1.1.map (·.2.text))
    rw [hopened]
  · show (reports s a opened.probe opened.host).1.1.filter (·.2.isReply) = _
    rw [hopened, hlog]
  · rwa [hopened]
  · rw [← List.forall₂_eq_eq_eq, List.forall₂_map_right_iff]
    exact htells.imp fun _ _ h => h.eq_window hlt
  · exact htells.imp fun _ _ h => h.lt_window hlt

/-- Each of two requests has its own reply in the wait behind it. -/
theorem attribution_of_simulation_quick :
    let s : Surroundings :=
      { wallClock := fun _ => .epoch, arrivals := fun _ => [], lastPolls := fun _ => 1 }
    let c : ProbeConfig := {}
    let a : PingArguments :=
      { address := ⟨203, 0, 113, 10⟩, count := 2, wait := 50, simulate := true }
    let host : Host := { script := ({} : Refusals).script 5 }
    let opened := Scene.openedUnder { running := true, now := 0 } { c with simulate := true } 0x1234
      host
    c.effectiveDelay < a.wait.toNat ∧
      (ping s c 0x1234 a host).1 = .success
        ["seq=0 reply from 203.0.113.10", "seq=1 reply from 203.0.113.10",
          "2 requests, 2 replies"] ∧
      ∃ lines : List ReplyLine, lines.length = 2 ∧
        List.Forall₂ (Tells s c a opened.probe opened.host) (lines.map ReplyLine.window) lines := by
  intro s c a host opened
  have hquick : c.effectiveDelay < a.wait.toNat := by decide
  obtain ⟨-, lines, answered, hlog, -, -, htells, hown, -⟩ :=
    attribution_of_simulation s c 0x1234 a host (by decide)
  obtain rfl := hown hquick
  refine ⟨hquick, by decide +kernel, lines, ?_, htells⟩
  rw [← List.length_map ReplyLine.report, ← hlog]
  decide +kernel

/-- With a wait of 20 ms and a delay of 30 ms, the only line names the second request. That one's
reply is not due until 20 ms later; what is reported is the reply to the first one. -/
theorem reply_under_later_number :
    let s : Surroundings :=
      { wallClock := fun _ => .epoch, arrivals := fun _ => [], lastPolls := fun _ => 1 }
    let c : ProbeConfig := {}
    let a : PingArguments :=
      { address := ⟨203, 0, 113, 10⟩, count := 2, wait := 20, simulate := true }
    let host : Host := { script := ({} : Refusals).script 5 }
    let opened := Scene.openedUnder { running := true, now := 0 } { c with simulate := true } 0x1234
      host
    let log := (reports s a opened.probe opened.host).1.1
    (ping s c 0x1234 a host).1 =
        .success ["seq=1 reply from 203.0.113.10", "2 requests, 1 replies"] ∧
      (Clock.ofMilliseconds 30, .reply 1 a.address) ∈ log ∧
      (∀ number < a.count.toNat, number.toUInt16 = 1 →
        Clock.ofMilliseconds 30 < dueAt c a number) ∧
      dueAt c a 0 = Clock.ofMilliseconds 30 := by
  intro s c a host opened log
  refine ⟨?_, ?_, ?_, ?_⟩
  · decide +kernel
  · decide +kernel
  · decide +kernel
  · decide +kernel

end PingTun.CommandLine
