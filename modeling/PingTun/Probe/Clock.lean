-- SUMMARY: Time as timers see it, and the event loop that they belong to.

/-! # Clocks

Timers run on the clock of an event loop. It counts nanoseconds, and timers are coarser: a time
that a timer is set to is rounded up to a whole millisecond. Far times are come to by stops, which
are multiples of coarse units at first, and of finer ones later.
-/

namespace PingTun

namespace Clock

def millisecond : Nat := 1000000

def ofMilliseconds (n : Nat) : Nat := n * millisecond

/-- The first whole millisecond that is not before a time. -/
def roundUp (t : Nat) : Nat := (t + (millisecond - 1)) / millisecond * millisecond

theorem le_roundUp (t : Nat) : t ≤ roundUp t := by
  simp only [roundUp, millisecond]
  omega

@[simp] theorem roundUp_ofMilliseconds (n : Nat) :
    roundUp (ofMilliseconds n) = ofMilliseconds n := by
  simp only [roundUp, ofMilliseconds, millisecond]
  omega

/-! ## Stops -/

/-- The last multiple of a unit that is not behind a time. -/
def roundDown (unit t : Nat) : Nat := t / unit * unit

theorem roundDown_le (unit t : Nat) : roundDown unit t ≤ t := Nat.div_mul_le_self t unit

/-- The unit of stops on a level: each is 64 times as long as the one below it. -/
def stopUnit (level : Nat) : Nat := Nat.pow 64 level * millisecond

/-- The stops on the way to a time, the last of which is the time itself in milliseconds. -/
def stops (t : Nat) : List Nat := [5, 4, 3, 2, 1, 0].map fun level => roundDown (stopUnit level) t

/-- The first stop on the way to a time that is still to come. -/
def nextStop (reached t : Nat) : Nat := ((stops t).find? (reached < ·)).getD t

theorem nextStop_le (reached t : Nat) : nextStop reached t ≤ t := by
  unfold nextStop
  cases hfind : (stops t).find? (reached < ·) with
  | none => exact Nat.le_refl t
  | some stop =>
    obtain ⟨level, -, hlevel⟩ := List.mem_map.mp (List.mem_of_find?_eq_some hfind)
    rw [Option.getD_some, ← hlevel]
    exact roundDown_le ..

end Clock

/-! ## Event loops -/

/-- What watches sockets and timers, as long as it is running. There is a time afterwards too, which
need not go on from the loop's. -/
structure EventLoop where
  running : Bool
  now : Nat
deriving DecidableEq, Repr

/-- What an event loop lets a task do in one turn: to read from a socket once, or to come to one
stop of a timer, is a step. A task that runs out of steps is given further turns, as long as it has
something to wait for. -/
def EventLoop.stepsPerTurn : Nat := 128

/-- What can not be done without a running event loop: set a timer, or ask one. -/
inductive Abort
  | timerSet
  | timerAsked
deriving DecidableEq, Repr

end PingTun
