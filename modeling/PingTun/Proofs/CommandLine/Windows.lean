-- SUMMARY: A run on a simulation reports each reply that is due before the end once, whichever wait it comes in.
import PingTun.CommandLine.Pinging
import PingTun.Proofs.Probe.Collecting
import PingTun.Proofs.Probe.Opening
import PingTun.Proofs.Text.Addresses

/-! # Pinging a simulation

A run waits behind each request, for a fixed time. A reply that takes longer comes during the wait
behind a later request. If it is due at the very end of a wait, it depends on how often replies are
looked for there whether it is reported at once or behind the next request. Neither way is it lost
or reported again: what is still to come between two requests are the replies that have not been
reported, and none of them is due yet.
-/

namespace PingTun.CommandLine

open Probe

variable {c : ProbeConfig} {a : PingArguments}

/-! ## Waits -/

/-- At the very end of a wait any number of polls hands out some of the replies that are due then,
and leaves the others. -/
theorem collects_lastReplies {now : Nat} {p : Probe} {coming : List Outstanding}
    (h : Simulates c now p coming) (hlate : ∀ reply ∈ coming, now ≤ reply.due) (polls : Nat) :
    ∃ rest, Collects c now now p coming (lastReplies now polls [] p).1
      (lastReplies now polls [] p).2 rest := by
  induction polls generalizing p coming with
  | zero => exact ⟨coming, .refl h hlate⟩
  | succ polls ih =>
    simp only [lastReplies, pollAt]
    cases hpoll : p.pollWithin now EventLoop.stepsPerTurn with
    | mk found answer =>
      obtain ⟨left, q, events⟩ := answer
      have hsender := sameSender_of_pollWithin hpoll
      cases found with
      | none =>
        exact ⟨coming, .nil now now coming, h.poll_none hpoll, hlate, hsender⟩
      | some source =>
        obtain ⟨out, rest, hperm, rfl, hdue, -, hafter⟩ := h.poll_some hpoll
        have hrest (reply : Outstanding) (hreply : reply ∈ rest) : now ≤ reply.due :=
          hlate reply (hperm.mem_iff.mpr (List.mem_cons_of_mem out hreply))
        obtain ⟨left, hleft⟩ := ih hafter hrest
        dsimp only
        rw [lastReplies_eq]
        have hreply : Delivers now now out (now, out.address) :=
          ⟨rfl, hdue, Nat.le_refl now, Nat.le_refl now⟩
        exact ⟨left, .cons hperm hreply hleft.given, hleft.after, hleft.late,
          hsender.trans hleft.sender⟩

/-- What is not due a moment before a whole millisecond is not due before it. -/
theorem le_of_dvd_of_sub_one_le {time due : Nat} (htime : Clock.millisecond ∣ time)
    (hdue : Clock.millisecond ∣ due) (hle : time - 1 ≤ due) : time ≤ due := by
  obtain ⟨m, rfl⟩ := htime
  obtain ⟨n, rfl⟩ := hdue
  have hlt : Clock.millisecond * m < Clock.millisecond * (n + 1) := by
    rw [Nat.mul_succ]
    simp only [Clock.millisecond] at hle ⊢
    omega
  exact Nat.mul_le_mul_left _ (Nat.le_of_lt_succ (Nat.lt_of_mul_lt_mul_left hlt))

/-- A whole wait hands out all replies that are due before its end, however often replies are looked
for at the end. -/
theorem collects_repliesUntil {now deadline : Nat} {p : Probe} {coming : List Outstanding}
    (h : Simulates c now p coming) (hle : now ≤ deadline)
    (hlate : ∀ reply ∈ coming, now ≤ reply.due)
    (hwhole : ∀ reply ∈ coming, Clock.millisecond ∣ reply.due)
    (hdeadline : Clock.millisecond ∣ deadline) (polls : Nat) :
    ∃ rest, Collects c now deadline p coming (repliesUntil now deadline polls p).1
      (repliesUntil now deadline polls p).2 rest := by
  by_cases hlt : now < deadline
  · simp only [repliesUntil, if_pos hlt]
    rw [lastReplies_eq, List.reverse_reverse]
    obtain ⟨rest, hrest⟩ := h.collects_collect (Nat.le_sub_one_of_lt hlt) hlate
    have hdue (reply : Outstanding) (hreply : reply ∈ rest) : deadline ≤ reply.due :=
      le_of_dvd_of_sub_one_le hdeadline (hwhole reply (hrest.given.mem_of_mem hreply))
        (hrest.late reply hreply)
    have hbefore := hrest.later (Nat.sub_le deadline 1) hdue
    obtain ⟨left, hleft⟩ := collects_lastReplies hbefore.after hbefore.late polls
    exact ⟨left, hbefore.trans hleft hle (Nat.le_refl deadline)⟩
  · obtain rfl : now = deadline := Nat.le_antisymm hle (Nat.le_of_not_lt hlt)
    simp only [repliesUntil, if_neg hlt]
    exact collects_lastReplies h hlate polls

/-! ## Requests and their replies -/

/-- When a request is sent: so many waits after the first one. -/
def sentAt (a : PingArguments) (number : Nat) : Nat :=
  Clock.ofMilliseconds (number * a.wait.toNat)

/-- When the reply to a request is due. -/
def dueAt (c : ProbeConfig) (a : PingArguments) (number : Nat) : Nat :=
  sentAt a number + c.replyTime

/-- The reply to a request. -/
def replyTo (c : ProbeConfig) (a : PingArguments) (number : Nat) : Outstanding :=
  ⟨dueAt c a number, a.address⟩

/-- A request, if it is replied to. -/
def repliedTo (c : ProbeConfig) (a : PingArguments) (number : Nat) : List Nat :=
  if c.unreachable.Covers a.address then [] else [number]

/-- The first requests of a run, so many of them, as far as they are replied to. -/
def answerable (c : ProbeConfig) (a : PingArguments) (count : Nat) : List Nat :=
  if c.unreachable.Covers a.address then [] else List.range count

theorem sentAt_succ (a : PingArguments) (number : Nat) :
    sentAt a (number + 1) = sentAt a number + Clock.ofMilliseconds a.wait.toNat := by
  simp only [sentAt, Clock.ofMilliseconds, Nat.succ_mul, Nat.add_mul]

theorem sentAt_le_succ (a : PingArguments) (number : Nat) :
    sentAt a number ≤ sentAt a (number + 1) := by
  rw [sentAt_succ]
  exact Nat.le_add_right ..

theorem dvd_sentAt (a : PingArguments) (number : Nat) : Clock.millisecond ∣ sentAt a number :=
  Nat.dvd_mul_left ..

theorem dvd_dueAt (c : ProbeConfig) (a : PingArguments) (number : Nat) :
    Clock.millisecond ∣ dueAt c a number :=
  Nat.dvd_add (dvd_sentAt a number) (Nat.dvd_mul_left ..)

@[simp] theorem PingArguments.address_ping (a : PingArguments) : a.ping.address = a.address := rfl

theorem outstanding_sentAt (c : ProbeConfig) (a : PingArguments) (number : Nat) :
    c.outstanding ⟨sentAt a number, a.address⟩ = replyTo c a number := by
  simp only [ProbeConfig.outstanding, sentAt, ProbeConfig.dueTime_ofMilliseconds, replyTo, dueAt]

theorem answerable_succ (c : ProbeConfig) (a : PingArguments) (count : Nat) :
    answerable c a (count + 1) = answerable c a count ++ repliedTo c a count := by
  unfold answerable repliedTo
  split
  · rfl
  · exact List.range_succ

theorem lt_of_mem_answerable {count number : Nat} (h : number ∈ answerable c a count) :
    number < count := by
  unfold answerable at h
  split at h
  · cases h
  · exact List.mem_range.mp h

theorem nodup_answerable (c : ProbeConfig) (a : PingArguments) (count : Nat) :
    (answerable c a count).Nodup := by
  unfold answerable
  split
  · exact List.nodup_nil
  · exact List.nodup_range

theorem length_answerable_le (c : ProbeConfig) (a : PingArguments) (count : Nat) :
    (answerable c a count).length ≤ count := by
  unfold answerable
  split
  · exact Nat.zero_le count
  · exact Nat.le_of_eq List.length_range

/-! ## Reports -/

/-- A line that reports a reply: the request whose wait it is reported in, when, and from where. -/
structure ReplyLine where
  window : Nat
  time : Nat
  source : Address
deriving DecidableEq, Repr

/-- A line as it is reported: with the sequence number of the request whose wait it is in. -/
def ReplyLine.report (line : ReplyLine) : Nat × Report :=
  (line.time, .reply line.window.toUInt16 line.source)

/-- A line as it is printed, with a sequence number of 16 bits and the octets of the address. -/
def ReplyLine.printed (line : ReplyLine) : String :=
  "seq=" ++ toString (line.window % 65536) ++ " reply from " ++
    (toString line.source.first ++ "." ++ toString line.source.second ++ "." ++
      toString line.source.third ++ "." ++ toString line.source.fourth)

theorem ReplyLine.text_report (line : ReplyLine) : line.report.2.text = line.printed := by
  have hsequence : line.window.toUInt16.toNat = line.window % 65536 := UInt16.toNat_ofNat'
  rw [report, Report.text, printed, hsequence, Numeral.text_eq, Address.text_eq]

theorem Report.text_total (requests replies : UInt32) :
    (Report.total requests replies).text =
      toString requests.toNat ++ " requests, " ++ toString replies.toNat ++ " replies" := by
  rw [text, Numeral.text_eq, Numeral.text_eq]

/-- Whether a line reports the reply to a request: from the address that was pinged, not before the
reply is due, and in the wait behind that request or a later one. -/
structure Reports (c : ProbeConfig) (a : PingArguments) (number : Nat) (line : ReplyLine) :
    Prop where
  source : line.source = a.address
  due_le : dueAt c a number ≤ line.time
  sent : number ≤ line.window
  begin_le : sentAt a line.window ≤ line.time
  le_end : line.time ≤ sentAt a (line.window + 1)

-- The time to wait is a variable here: on the clock it is a product with a large number, which need
-- not be computed to see what the wait comes to.
/-- Behind a request that is sent, the replies of a whole wait are reported. -/
theorem request_of_sent {s : Surroundings} {session after : Session} {host host' : Host}
    {number wait : Nat} {replies : List (Nat × Address)} {q : Probe}
    (hduration : Clock.ofMilliseconds a.wait.toNat = wait)
    (hsend : sendPing s a.ping session host = ((true, after), host'))
    (hwait : repliesUntil after.now (after.now + wait) (s.lastPolls number) after.probe =
      (replies, q)) :
    request s a number session host =
      ((replies.map fun reply => (reply.1, .reply session.probe.nextSequence reply.2),
        ⟨q, after.now + wait, after.replies + replies.length.toUInt32⟩), host') := by
  unfold request
  rw [hduration]
  simp only [bind, StateT.bind, hsend, hwait]
  rfl

/-- Replies that are handed out during a wait, each to its request, are reported in lines. -/
theorem reports_of_delivers {window : Nat} {answered : List Nat} {replies : List (Nat × Address)}
    (hsent : ∀ number ∈ answered, number ≤ window)
    (h : List.Forall₂
      (fun number => Delivers (sentAt a window) (sentAt a (window + 1)) (replyTo c a number))
      answered replies) :
    List.Forall₂ (Reports c a) answered
      (replies.map fun reply => ⟨window, reply.1, reply.2⟩) := by
  induction h with
  | nil => exact .nil
  | cons hreply _ ih =>
    refine .cons ?_ (ih fun number hmem => hsent number (List.mem_cons_of_mem _ hmem))
    exact ⟨hreply.address, hreply.due, hsent _ List.mem_cons_self, hreply.start_le,
      hreply.le_stop⟩

/-- Replies that are due by the time of a request are due by the wait that they are reported in. -/
theorem punctual_of_delivers {window : Nat} {answered : List Nat} {replies : List (Nat × Address)}
    (hdue : ∀ number ∈ answered, sentAt a window ≤ dueAt c a number)
    (h : List.Forall₂
      (fun number => Delivers (sentAt a window) (sentAt a (window + 1)) (replyTo c a number))
      answered replies) :
    List.Forall₂ (fun number (line : ReplyLine) => sentAt a line.window ≤ dueAt c a number) answered
      (replies.map fun reply => ⟨window, reply.1, reply.2⟩) := by
  induction h with
  | nil => exact .nil
  | cons _ _ ih =>
    exact .cons (hdue _ List.mem_cons_self)
      (ih fun number hmem => hdue number (List.mem_cons_of_mem _ hmem))

/-! ## Runs -/

/-- Where a run stands behind some requests: the replies to these are reported in lines, each in the
wait in which it is due, those to others are still to come, and none of them is due yet. -/
structure Underway (c : ProbeConfig) (a : PingArguments) (sent : Nat) (session : Session)
    (lines : List ReplyLine) (answered owed : List Nat) : Prop where
  now : session.now = sentAt a sent
  sequence : session.probe.nextSequence = sent.toUInt16
  replies : session.replies = lines.length.toUInt32
  simulates : Simulates c (sentAt a sent) session.probe (owed.map (replyTo c a))
  perm : (answerable c a sent).Perm (answered ++ owed)
  reported : List.Forall₂ (Reports c a) answered lines
  punctual : List.Forall₂ (fun number line => sentAt a line.window ≤ dueAt c a number) answered lines
  windows : ∀ line ∈ lines, line.window < sent
  late : ∀ number ∈ owed, sentAt a sent ≤ dueAt c a number

namespace Underway

variable {sent : Nat} {session : Session} {lines : List ReplyLine} {answered owed : List Nat}

/-- When a request is sent, its reply is one more to come if there is one. -/
theorem simulates_of_send (h : Underway c a sent session lines answered owed)
    (hfits : a.payloadSize.toNat ≤ 65507) (s : Surroundings) (host : Host) :
    ∃ q, sendPing s a.ping session host = ((true, { session with probe := q }), host) ∧
      q.nextSequence = sent.toUInt16 + 1 ∧
      Simulates c (sentAt a sent) q ((repliedTo c a sent ++ owed).map (replyTo c a)) := by
  obtain ⟨q, event, hsend, hsequence, harrive, hq⟩ :=
    h.simulates.sendAt a.ping hfits (s.wallClock session.now) host
  refine ⟨q, ?_, h.sequence ▸ hsequence, ?_⟩
  · rw [← h.now] at hsend
    have hget : (get : StateM Host Host) host = (host, host) := rfl
    simp only [sendPing, Host.bind_of_eq hget, Host.bind_of_eq hsend, Nat.sub_self,
      List.range'_zero, List.flatMap_nil, harrive]
    rfl
  · unfold repliedTo
    rw [PingArguments.address_ping, outstanding_sentAt] at hq
    split at hq <;> rename_i hcovers
    · rwa [if_pos hcovers]
    · rwa [if_neg hcovers]

/-- The requests that are replied to are those there were before, and the latest. -/
theorem perm_succ (h : Underway c a sent session lines answered owed) :
    (answerable c a (sent + 1)).Perm (answered ++ (repliedTo c a sent ++ owed)) := by
  rw [answerable_succ]
  refine (h.perm.append_right _).trans ?_
  rw [List.append_assoc]
  exact List.perm_append_comm.append_left answered

/-- No reply that is to come when a request has been sent is due before. -/
theorem sentAt_le_dueAt (h : Underway c a sent session lines answered owed) :
    ∀ number ∈ repliedTo c a sent ++ owed, sentAt a sent ≤ dueAt c a number := by
  intro number hmem
  rcases List.mem_append.mp hmem with hnew | hold
  · unfold repliedTo at hnew
    split at hnew
    · cases hnew
    · rw [List.mem_singleton.mp hnew]
      exact Nat.le_add_right ..
  · exact h.late number hold

/-- One request, and the wait behind it. -/
theorem request (h : Underway c a sent session lines answered owed)
    (hfits : a.payloadSize.toNat ≤ 65507) (s : Surroundings) (host : Host) :
    ∃ session' further later left,
      request s a sent session host = ((further.map ReplyLine.report, session'), host) ∧
        Underway c a (sent + 1) session' (lines ++ further) (answered ++ later) left := by
  obtain ⟨q, hsend, hsequence, hq⟩ := h.simulates_of_send hfits s host
  obtain ⟨rest, hrest⟩ := collects_repliesUntil hq (sentAt_le_succ a sent)
    (List.forall_mem_map.mpr h.sentAt_le_dueAt)
    (List.forall_mem_map.mpr fun number _ => dvd_dueAt c a number) (dvd_sentAt a (sent + 1))
    (s.lastPolls sent)
  obtain ⟨later, left, hlater, rfl, hreplies⟩ := hrest.given.numbers
  have hperm : (answerable c a (sent + 1)).Perm (answered ++ (later ++ left)) :=
    h.perm_succ.trans (hlater.append_left answered)
  have hsent : ∀ number ∈ later, number ≤ sent := by
    intro number hmem
    have hbehind : number ∈ answered ++ (later ++ left) :=
      List.mem_append_right _ (List.mem_append_left _ hmem)
    exact Nat.le_of_lt_succ (lt_of_mem_answerable (hperm.mem_iff.mpr hbehind))
  have hdue : ∀ number ∈ later, sentAt a sent ≤ dueAt c a number := fun number hmem =>
    h.sentAt_le_dueAt number (hlater.mem_iff.mpr (List.mem_append_left _ hmem))
  generalize hwait : repliesUntil (sentAt a sent) (sentAt a (sent + 1)) (s.lastPolls sent) q =
    answer at hrest hreplies
  obtain ⟨replies, r⟩ := answer
  refine ⟨⟨r, sentAt a (sent + 1), session.replies + replies.length.toUInt32⟩,
    replies.map fun reply => ⟨sent, reply.1, reply.2⟩, later, left, ?_, ?_⟩
  · rw [sentAt_succ, ← h.now] at hwait
    rw [request_of_sent rfl hsend hwait, h.now, ← sentAt_succ, h.sequence, List.map_map]
    rfl
  · exact
      { now := rfl
        sequence := by
          rw [hrest.sender.nextSequence, hsequence]
          exact (UInt16.ofNat_add sent 1).symm
        replies := by
          rw [h.replies, List.length_append, List.length_map]
          exact (UInt32.ofNat_add ..).symm
        simulates := hrest.after
        perm := by rwa [List.append_assoc]
        reported := List.rel_append h.reported (reports_of_delivers hsent hreplies)
        punctual := List.rel_append h.punctual (punctual_of_delivers hdue hreplies)
        windows := by
          refine List.forall_mem_append.mpr ⟨?_, List.forall_mem_map.mpr fun _ _ => ?_⟩
          · exact fun line hmem => Nat.lt_succ_of_lt (h.windows line hmem)
          · exact Nat.lt_succ_self sent
        late := fun number hmem => hrest.late _ (List.mem_map_of_mem hmem) }

/-- So many requests in a row, and the waits behind them. -/
theorem requests (h : Underway c a sent session lines answered owed)
    (hfits : a.payloadSize.toNat ≤ 65507) (s : Surroundings) (host : Host) (count : Nat) :
    ∃ session' further later left,
      requests s a count sent [] session host = ((further.map ReplyLine.report, session'), host) ∧
        Underway c a (sent + count) session' (lines ++ further) (answered ++ later) left := by
  induction count generalizing sent session lines answered owed with
  | zero =>
    refine ⟨session, [], [], owed, rfl, ?_⟩
    simpa using h
  | succ count ih =>
    obtain ⟨between, first, answers, pending, hfirst, hbetween⟩ := h.request hfits s host
    obtain ⟨session', further, later, left, hrun, hafter⟩ := ih hbetween
    refine ⟨session', first ++ further, answers ++ later, left, ?_, ?_⟩
    · simp only [CommandLine.requests, bind, StateT.bind, hfirst]
      rw [requests_eq, hrun]
      simp
    · rw [← List.append_assoc, ← List.append_assoc, ← Nat.add_assoc, Nat.add_right_comm]
      exact hafter

/-- Replies that are due before the end have been reported. -/
theorem mem_of_dueAt_lt (h : Underway c a sent session lines answered owed)
    (hcovers : ¬ c.unreachable.Covers a.address) {number : Nat} (hnumber : number < sent)
    (hdue : dueAt c a number < sentAt a sent) : number ∈ answered := by
  have hmem : number ∈ answerable c a sent := by
    rw [answerable, if_neg hcovers]
    exact List.mem_range.mpr hnumber
  rcases List.mem_append.mp (h.perm.mem_iff.mp hmem) with hanswered | howed
  · exact hanswered
  · exact absurd hdue (Nat.not_lt.mpr (h.late number howed))

/-- There are no more lines than requests that are replied to. -/
theorem length_lines_le (h : Underway c a sent session lines answered owed) :
    lines.length ≤ (answerable c a sent).length := by
  rw [← h.reported.length_eq, h.perm.length_eq]
  exact (List.sublist_append_left ..).length_le

end Underway

/-- In front of the first request nothing is to come. -/
theorem underway_opened (c : ProbeConfig) (a : PingArguments) (identifier : UInt16) :
    Underway c a 0 { probe := { identifier, backend := .simulated (.ofConfig c) }, now := 0 }
      [] [] [] where
  now := by simp [sentAt, Clock.ofMilliseconds]
  sequence := rfl
  replies := rfl
  simulates := ⟨.ofConfig c, rfl, ⟨rfl, rfl⟩, Simulation.timely_ofConfig c _, .refl _⟩
  perm := by simp [answerable]
  reported := .nil
  punctual := .nil
  windows := nofun
  late := nofun

/-- A run reports one line after the other, and the total. -/
theorem exists_reports (c : ProbeConfig) (s : Surroundings) (identifier : UInt16) (host : Host)
    (hfits : a.payloadSize.toNat ≤ 65507) :
    ∃ session lines answered owed,
      reports s a { identifier, backend := .simulated (.ofConfig c) } host =
        ((lines.map ReplyLine.report ++
          [(sentAt a a.count.toNat, .total a.count session.replies)], session), host) ∧
        Underway c a a.count.toNat session lines answered owed := by
  obtain ⟨session, lines, answered, owed, hrun, hend⟩ :=
    (underway_opened c a identifier).requests hfits s host a.count.toNat
  rw [Nat.zero_add] at hend
  refine ⟨session, lines, answered, owed, ?_, hend⟩
  simp only [reports, bind, StateT.bind, hrun, hend.now]
  rfl

/-- A simulated probe is opened and dropped without the system: the run comes to its reports. -/
theorem ping_simulated (s : Surroundings) (identifier : UInt16) (host : Host)
    (hsimulate : (c.simulate || a.simulate) = true) :
    (ping s c identifier a host).1 = .success
      ((reports s a { identifier, backend := .simulated (.ofConfig c) } host).1.1.map
        (·.2.text)) := by
  simp only [ping, hsimulate]
  rfl

/-- A run on a simulated probe sends one request after each wait. It prints a line for each of some
requests and no two for the same, from the address that was pinged and not before the reply is due.
Behind these it prints how many requests there were, and as many replies as there are lines. Every
reply that is due before the wait behind the last request ends is among them, in whatever wait it
comes and however often replies are looked for at the end of each. An address in the network that
never replies has no line. -/
theorem ping_of_simulation (s : Surroundings) (c : ProbeConfig) (identifier : UInt16)
    (a : PingArguments) (host : Host) (hsimulate : (c.simulate || a.simulate) = true)
    (hfits : a.payloadSize.toNat ≤ 65507) :
    let opened := Scene.openedUnder { running := true, now := 0 }
      { c with simulate := c.simulate || a.simulate } identifier host
    let log := (reports s a opened.probe opened.host).1.1
    (ping s c identifier a host).1 = .success (log.map (·.2.text)) ∧
      (∀ number < a.count.toNat,
        (requests s a number 0 [] { probe := opened.probe, now := 0 } opened.host).1.2.now =
          sentAt a number) ∧
      ∃ (lines : List ReplyLine) (answered : List Nat) (total : UInt32),
        log = lines.map ReplyLine.report ++ [(sentAt a a.count.toNat, .total a.count total)] ∧
        total.toNat = lines.length ∧
        (ping s c identifier a host).1 =
          { exitCode := 0
            output := lines.map ReplyLine.printed ++
              [toString a.count.toNat ++ " requests, " ++ toString lines.length ++ " replies"] } ∧
        List.Forall₂ (Reports c a) answered lines ∧ answered.Nodup ∧
        (∀ number ∈ answered, number < a.count.toNat) ∧
        (∀ line ∈ lines, line.window < a.count.toNat) ∧
        (c.unreachable.Covers a.address → lines = []) ∧
        (¬ c.unreachable.Covers a.address → ∀ number < a.count.toNat,
          dueAt c a number < sentAt a a.count.toNat → number ∈ answered) := by
  intro opened log
  have hopened : opened = ⟨0, host, { identifier, backend := .simulated (.ofConfig c) }⟩ :=
    openedUnder_simulated rfl hsimulate identifier host
  obtain ⟨session, lines, answered, owed, hreports, hend⟩ :=
    exists_reports c s identifier host hfits
  have hlog : log = lines.map ReplyLine.report ++
      [(sentAt a a.count.toNat, .total a.count session.replies)] := by
    show (reports s a opened.probe opened.host).1.1 = _
    rw [hopened, hreports]
  have htotal : session.replies.toNat = lines.length := by
    rw [hend.replies]
    exact UInt32.toNat_ofNat_of_lt' (calc
      lines.length ≤ (answerable c a a.count.toNat).length := hend.length_lines_le
      _ ≤ a.count.toNat := length_answerable_le c a _
      _ < UInt32.size := a.count.toNat_lt)
  have houtput : (ping s c identifier a host).1 = .success (log.map (·.2.text)) := by
    rw [ping_simulated s identifier host hsimulate, hlog, hreports]
  have hnodup : (answered ++ owed).Nodup := hend.perm.nodup_iff.mp (nodup_answerable c a _)
  refine ⟨houtput, ?_, lines, answered, session.replies, hlog, htotal, ?_, hend.reported,
    (List.nodup_append.mp hnodup).1, ?_, hend.windows, ?_, ?_⟩
  · intro number _
    obtain ⟨between, further, later, left, hrun, hafter⟩ :=
      (underway_opened c a identifier).requests hfits s host number
    rw [hopened, hrun, hafter.now, Nat.zero_add]
  · rw [houtput, hlog, List.map_append, List.map_map, List.map_singleton, Report.text_total, htotal]
    congr 2
    exact List.map_congr_left fun line _ => line.text_report
  · intro number hanswered
    exact lt_of_mem_answerable (hend.perm.mem_iff.mpr (List.mem_append_left owed hanswered))
  · intro hcovers
    have hnone : lines.length ≤ 0 := by simpa [answerable, hcovers] using hend.length_lines_le
    exact List.eq_nil_of_length_eq_zero (Nat.le_zero.mp hnone)
  · intro hcovers number hnumber hdue
    exact hend.mem_of_dueAt_lt hcovers hnumber hdue

/-- The first reply is due at the very end of the second wait, where replies are not looked for. It
is reported all the same, behind the third request. -/
theorem ping_of_simulation_tied :
    let s : Surroundings :=
      { wallClock := fun _ => .epoch, arrivals := fun _ => [], lastPolls := fun _ => 0 }
    let c : ProbeConfig := {}
    let a : PingArguments :=
      { address := ⟨203, 0, 113, 10⟩, count := 3, wait := 15, simulate := true }
    dueAt c a 0 = sentAt a 2 ∧
      (ping s c 0x1234 a { script := ({} : Refusals).script 5 }).1 =
        { exitCode := 0, output := ["seq=2 reply from 203.0.113.10", "3 requests, 1 replies"] } ∧
      ∃ (lines : List ReplyLine) (answered : List Nat),
        lines.map ReplyLine.printed = ["seq=2 reply from 203.0.113.10"] ∧
        List.Forall₂ (Reports c a) answered lines ∧ answered.Nodup ∧ 0 ∈ answered := by
  intro s c a
  have hcovers : ¬ c.unreachable.Covers a.address := by decide
  have hprinted : (ping s c 0x1234 a { script := ({} : Refusals).script 5 }).1 =
      { exitCode := 0, output := ["seq=2 reply from 203.0.113.10", "3 requests, 1 replies"] } := by
    decide +kernel
  obtain ⟨-, -, lines, answered, total, -, -, houtput, hreported, hnodup, -, -, -, hdue⟩ :=
    ping_of_simulation s c 0x1234 a { script := ({} : Refusals).script 5 } (by decide) (by decide)
  refine ⟨by decide, hprinted, lines, answered, ?_, hreported, hnodup, ?_⟩
  · have hlines : ["seq=2 reply from 203.0.113.10"] ++ ["3 requests, 1 replies"] =
        lines.map ReplyLine.printed ++ _ :=
      congrArg Outcome.output (hprinted.symm.trans houtput)
    exact (List.append_inj_left' hlines rfl).symm
  · exact hdue hcovers 0 (by decide) (by decide)

end PingTun.CommandLine
