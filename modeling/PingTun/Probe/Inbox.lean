-- SUMMARY: What arrives at a probe's raw socket, and which of it is taken for a reply.
import PingTun.Event

/-! # Inboxes

What has arrived waits at the socket until it is read, one datagram at a time. A socket is watched
for edges: it counts as ready from an arrival on until a read finds nothing or fails, and only a
ready socket is read. Datagrams that are no replies to the probe are dropped on the way. Each read
is a step, and steps are limited.
-/

namespace PingTun

/-! ## Receive buffers -/

/-- The buffer that datagrams are read into, which is used over and over. -/
structure ReceiveBuffer where
  bytes : List UInt8
  length_eq : bytes.length = 2048

namespace ReceiveBuffer

def capacity : Nat := 2048

def empty : ReceiveBuffer := { bytes := List.replicate 2048 0, length_eq := List.length_replicate }

/-- Read a datagram over the beginning of the buffer. What does not fit is lost. The number is how
many bytes were read. -/
def fill (b : ReceiveBuffer) (datagram : List UInt8) : ReceiveBuffer × Nat :=
  let read := datagram.take capacity
  ({ bytes := read ++ b.bytes.drop read.length
     length_eq := by
      have hread : read.length ≤ 2048 := List.length_take_le ..
      simp only [List.length_append, List.length_drop, b.length_eq]
      omega },
    read.length)

theorem take_fill (b : ReceiveBuffer) (datagram : List UInt8) :
    (b.fill datagram).1.bytes.take (b.fill datagram).2 = datagram.take capacity := by
  simp only [fill, List.take_left']

end ReceiveBuffer

/-! ## Datagrams -/

/-- The source of a datagram that is an echo reply to the identifier. Corruption is only reported:
type and identifier still decide. -/
def Echo.replySource (identifier : UInt16) (datagram : List UInt8) : Option Address × List Event :=
  match Echo.Reply.parse datagram with
  | .error cause => (none, [.datagramDiscarded cause])
  | .ok reply =>
    (if reply.isReplyTo identifier then some reply.source else none,
      if reply.checksumValid then [] else [.corruptReceived reply.source])

/-! ## Inboxes -/

/-- What a read comes upon: a datagram, or a failure that is not a datagram's. -/
inductive Arrival
  | datagram (bytes : List UInt8)
  | failure (cause : Errno)
deriving DecidableEq, Repr

structure Inbox where
  waiting : List Arrival := []
  ready : Bool := false
  buffer : ReceiveBuffer := .empty

namespace Inbox

def arrive (i : Inbox) (arrivals : List Arrival) : Inbox :=
  { i with waiting := i.waiting ++ arrivals, ready := i.ready || !arrivals.isEmpty }

/-- A read that only found nothing to read is no event. -/
def failureEvents (cause : Errno) : List Event :=
  if cause = .again then [] else [.receiveFailed]

/-- Read a ready socket up to the first reply, until it is no longer ready, or until there are no
steps left. Their number is given back. -/
def drain (identifier : UInt16) :
    Nat → List Arrival → ReceiveBuffer → Option Address × Nat × Inbox × List Event
  | 0, waiting, buffer => (none, 0, ⟨waiting, true, buffer⟩, [])
  | steps + 1, [], buffer => (none, steps, ⟨[], false, buffer⟩, [])
  | steps + 1, .failure cause :: rest, buffer =>
    (none, steps, ⟨rest, false, buffer⟩, failureEvents cause)
  | steps + 1, .datagram datagram :: rest, buffer =>
    let (buffer, read) := buffer.fill datagram
    match Echo.replySource identifier (buffer.bytes.take read) with
    | (some source, events) => (some source, steps, ⟨rest, true, buffer⟩, events)
    | (none, events) =>
      let (reply, steps, inbox, later) := drain identifier steps rest buffer
      (reply, steps, inbox, events ++ later)

/-- Look for a reply to the identifier. -/
def poll (i : Inbox) (identifier : UInt16) (steps : Nat) :
    Option Address × Nat × Inbox × List Event :=
  if i.ready then drain identifier steps i.waiting i.buffer else (none, steps, i, [])

theorem length_waiting_drain (identifier : UInt16) (steps : Nat) (arrivals : List Arrival)
    (buffer : ReceiveBuffer) :
    (drain identifier steps arrivals buffer).2.2.1.waiting.length +
      (drain identifier steps arrivals buffer).1.toList.length ≤ arrivals.length := by
  induction steps generalizing arrivals buffer with
  | zero => simp [drain]
  | succ steps ih =>
    match arrivals with
    | [] => simp [drain]
    | .failure cause :: rest => simp [drain]
    | .datagram datagram :: rest =>
      simp only [drain]
      split
      · simp
      · exact Nat.le_succ_of_le (ih ..)

theorem length_waiting_poll (i : Inbox) (identifier : UInt16) (steps : Nat) :
    (i.poll identifier steps).2.2.1.waiting.length +
      (i.poll identifier steps).1.toList.length ≤ i.waiting.length := by
  unfold poll
  split
  · exact length_waiting_drain ..
  · simp

end Inbox

end PingTun
