import PacedImages.Time.Boundary
import Std.Data.ExtTreeMap

/-!
# Timer queues

Timers that fire once or repeatedly, under handles that are never given twice; a counter of 64 bits
keeps that promise for the first 2 ^ 64 timers that are armed. A queue keeps its timers by handle,
and beside them the expiries in the order of their deadlines. Cancelling a timer leaves its expiry
where it is; an expiry that no timer stands behind any more is dropped when it comes first.
-/

namespace PacedImages

/-- The number of a timer, counted in the order of arming. The count has no end here; 64 bits hold
it up to the timer with the number 2 ^ 64. -/
abbrev Handle := Nat

inductive TimerKind where
  | once
  | every (period : Duration)
deriving Repr, DecidableEq

structure Timer where
  kind : TimerKind
  deadline : Instant
deriving Repr, DecidableEq

structure TimerQueue where
  nextHandle : Handle
  timers : Std.ExtTreeMap Handle Timer
  /-- The expiries, in the order of deadlines and then of handles. -/
  expiries : List (Instant × Handle)

namespace TimerQueue

def empty : TimerQueue := ⟨0, ∅, []⟩

/-- Whether an expiry comes before another. -/
def precedes (a b : Instant × Handle) : Bool := a.1 < b.1 || (a.1 == b.1 && a.2 < b.2)

/-- Enters an expiry in front of the first that comes after it. -/
def enter (x : Instant × Handle) : List (Instant × Handle) → List (Instant × Handle)
  | [] => [x]
  | y :: rest => if precedes x y then x :: y :: rest else y :: enter x rest

/-- Arms a timer. -/
def arm (q : TimerQueue) (kind : TimerKind) (deadline : Instant) : Handle × TimerQueue :=
  (q.nextHandle,
    { nextHandle := q.nextHandle + 1
      timers := q.timers.insert q.nextHandle ⟨kind, deadline⟩
      expiries := enter (deadline, q.nextHandle) q.expiries })

/-- Arms a timer that fires once, `delay` from now. -/
def scheduleOnce (q : TimerQueue) (now : Instant) (delay : Duration) : Handle × TimerQueue :=
  q.arm .once (now + delay)

/-- Arms a timer that fires every period, first one period from now. -/
def scheduleEvery (q : TimerQueue) (now : Instant) (period : Duration) : Handle × TimerQueue :=
  let period := max period Time.minPeriod
  q.arm (.every period) (now + period)

/-- Removes a timer, and tells whether there was one. -/
def cancel (q : TimerQueue) (handle : Handle) : Bool × TimerQueue :=
  (q.timers.contains handle, { q with timers := q.timers.erase handle })

def isActive (q : TimerQueue) (handle : Handle) : Bool := q.timers.contains handle

/-- The number of live timers. -/
def size (q : TimerQueue) : Nat := q.timers.size

def isEmpty (q : TimerQueue) : Bool := q.timers.isEmpty

/-- Whether a live timer stands behind an expiry. -/
def isLive (q : TimerQueue) (x : Instant × Handle) : Bool :=
  q.timers[x.2]?.any (·.deadline == x.1)

/-- The queue with a live expiry in front. -/
def settle (q : TimerQueue) : TimerQueue :=
  { q with expiries := q.expiries.dropWhile fun x => !q.isLive x }

/-- The earliest deadline of a live timer. -/
def nextDeadline (q : TimerQueue) : Option Instant × TimerQueue :=
  (q.settle.expiries.head?.map (·.1), q.settle)

/-- The timer that is due first, if its deadline is not after `now`. A timer that fires once is
removed; a repeating one goes on at its next boundary. -/
def popDue (q : TimerQueue) (now : Instant) : Option Handle × TimerQueue :=
  let q := q.settle
  match q.expiries with
  | [] => (none, q)
  | (deadline, handle) :: rest =>
    if now < deadline then (none, q)
    else match q.timers[handle]? with
      | none => (none, { q with expiries := rest })
      | some timer =>
        match timer.kind with
        | .once => (some handle, { q with timers := q.timers.erase handle, expiries := rest })
        | .every period =>
          let next := Time.nextBoundary deadline period now
          (some handle,
            { q with
              timers := q.timers.insert handle ⟨.every period, next⟩
              expiries := enter (next, handle) rest })

/-- Pops every timer that is due, at most as many as the fuel. -/
def drain : Nat → TimerQueue → Instant → List Handle × TimerQueue
  | 0, q, _ => ([], q)
  | fuel + 1, q, now =>
    match q.popDue now with
    | (none, q) => ([], q)
    | (some handle, q) =>
      let (handles, q) := drain fuel q now
      (handle :: handles, q)

end TimerQueue

end PacedImages
