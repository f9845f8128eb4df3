-- SUMMARY: The ping command: requests in a row, and what is reported of them.
import PingTun.CommandLine.Outcome
import PingTun.Probe.Sending
import PingTun.Probe.Waiting

/-! # Pinging

After each request that is sent, replies are waited for, for a fixed time. A reply is reported with
the sequence number of the latest request, whichever request it answers. At the very end of a wait
it is left open how often replies are still looked for.
-/

namespace PingTun.CommandLine

/-! ## Reports -/

inductive Report
  | reply (sequence : UInt16) (source : Address)
  | sendFailed (sequence : UInt16)
  | total (requests replies : UInt32)
deriving DecidableEq, Repr

def Report.text : Report → String
  | .reply sequence source =>
    "seq=" ++ Numeral.text sequence.toNat ++ " reply from " ++ source.text
  | .sendFailed sequence => "seq=" ++ Numeral.text sequence.toNat ++ " send failed"
  | .total requests replies =>
    Numeral.text requests.toNat ++ " requests, " ++ Numeral.text replies.toNat ++ " replies"

/-! ## Requests -/

/-- What a run depends on besides the host. -/
structure Surroundings where
  /-- The wall clock, at a time of the event loop. -/
  wallClock : Nat → Echo.Instant
  /-- What arrives at the raw socket with each packet that is handed to the system. -/
  arrivals : Nat → List Arrival
  /-- How often replies are looked for at the very end of each request's wait. -/
  lastPolls : Nat → Nat

/-- Where a run stands between requests. -/
structure Session where
  probe : Probe
  now : Nat
  replies : UInt32 := 0

def PingArguments.ping (a : PingArguments) : Ping where
  address := a.address
  payloadSize := a.payloadSize
  allowFragment := !a.dontFragment

/-- Look for replies so often, as long as there are any. They go behind those there already are,
the last of which comes first. -/
def lastReplies (now : Nat) :
    Nat → List (Nat × Address) → Probe → List (Nat × Address) × Probe
  | 0, replies, p => (replies.reverse, p)
  | polls + 1, replies, p =>
    match p.pollAt now with
    | (none, p, _) => (replies.reverse, p)
    | (some source, p, _) => lastReplies now polls ((now, source) :: replies) p

theorem lastReplies_eq (now polls : Nat) (replies : List (Nat × Address)) (p : Probe) :
    lastReplies now polls replies p =
      (replies.reverse ++ (lastReplies now polls [] p).1, (lastReplies now polls [] p).2) := by
  induction polls generalizing replies p with
  | zero => simp [lastReplies]
  | succ polls ih =>
    simp only [lastReplies]
    split
    · simp
    · rw [ih, ih [_]]
      simp

/-- The replies from now on until a deadline: all that come in front of it, and some at it. -/
def repliesUntil (now deadline lastPolls : Nat) (p : Probe) : List (Nat × Address) × Probe :=
  let (replies, p) :=
    if now < deadline then
      let (replies, p, _) := p.collect now (deadline - 1)
      (replies, p)
    else ([], p)
  lastReplies deadline lastPolls replies.reverse p

/-- Hand a ping to the probe, whose socket gets what arrives with its packet. -/
def sendPing (s : Surroundings) (ping : Ping) (session : Session) :
    StateM Host (Bool × Session) := do
  let before := (← get).transmissions
  let (sent, probe, _) ← session.probe.sendAt session.now (s.wallClock session.now) ping
  let made := (← get).transmissions - before
  let arrivals := (List.range' before made).flatMap s.arrivals
  return (sent, { session with probe := probe.arrive arrivals })

/-- One request, and the wait behind it if it is sent. Reports come with their times. -/
def request (s : Surroundings) (a : PingArguments) (number : Nat) (session : Session) :
    StateM Host (List (Nat × Report) × Session) := do
  let sequence := session.probe.nextSequence
  let (sent, session) ← sendPing s a.ping session
  if sent then
    let deadline := session.now + Clock.ofMilliseconds a.wait.toNat
    let (replies, probe) := repliesUntil session.now deadline (s.lastPolls number) session.probe
    return (replies.map fun (time, source) => (time, .reply sequence source),
      { probe, now := deadline, replies := session.replies + replies.length.toUInt32 })
  else
    return ([(session.now, .sendFailed sequence)], session)

/-- So many requests in a row, the first of which has a given number. The reports go behind those
there already are, the last of which comes first. -/
def requests (s : Surroundings) (a : PingArguments) :
    Nat → Nat → List (Nat × Report) → Session → StateM Host (List (Nat × Report) × Session)
  | 0, _, reports, session => return (reports.reverse, session)
  | count + 1, number, reports, session => do
    let (further, session) ← request s a number session
    requests s a count (number + 1) (further.reverseAux reports) session

theorem requests_eq (s : Surroundings) (a : PingArguments) (count number : Nat)
    (reports : List (Nat × Report)) (session : Session) (h : Host) :
    requests s a count number reports session h =
      ((reports.reverse ++ (requests s a count number [] session h).1.1,
        (requests s a count number [] session h).1.2),
        (requests s a count number [] session h).2) := by
  induction count generalizing number reports session h with
  | zero =>
    show ((reports.reverse, session), h) = ((reports.reverse ++ [], session), h)
    rw [List.append_nil]
  | succ count ih =>
    simp only [requests, bind, StateT.bind]
    generalize request s a number session h = answer
    obtain ⟨⟨further, session'⟩, h'⟩ := answer
    dsimp only
    rw [ih, ih _ (further.reverseAux [])]
    simp

/-- All reports of a run, with their times. -/
def reports (s : Surroundings) (a : PingArguments) (probe : Probe) :
    StateM Host (List (Nat × Report) × Session) := do
  let (reports, session) ← requests s a a.count.toNat 0 [] { probe, now := 0 }
  return (reports ++ [(session.now, .total a.count session.replies)], session)

/-- Ping an address. -/
def ping (s : Surroundings) (config : ProbeConfig) (identifier : UInt16) (a : PingArguments) :
    StateM Host Outcome := do
  let config := { config with simulate := config.simulate || a.simulate }
  let (probe, _) ← Probe.open { running := true, now := 0 } config identifier
  if probe.state = .socketFailed then
    return .failure "could not open ICMP socket, retry with privileges or --simulate"
  else
    let (reports, session) ← reports s a probe
    session.probe.drop
    return .success (reports.map (·.2.text))

end PingTun.CommandLine
