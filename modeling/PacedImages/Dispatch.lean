import PacedImages.Time.TimerQueue
import PacedImages.World

/-!
# Dispatch

The loop that drives a node by its timers. It sleeps to the earliest deadline, reads the clock once,
and hands every timer that is due by then to the node, one after the other. It ends when shutdown is
requested, which is looked at after every timer, or when no timer is left. The fuel bounds the
number of sleeps and of timers together.
-/

namespace PacedImages.Dispatch

inductive Outcome where
  | shutdown
  | idle
deriving Repr, DecidableEq

def Outcome.name : Outcome → String
  | .shutdown => "shutdown"
  | .idle => "idle"

/-- What the loop is about: to sleep, or to go on with the timers due at an instant. -/
inductive Phase where
  | waiting
  | batch (now : Instant)
deriving Repr, DecidableEq

/-- What a node does when a timer fires; it may arm and cancel timers. -/
abbrev OnTimer (m : Type → Type) (σ : Type) := Handle → σ → TimerQueue → m (σ × TimerQueue)

variable {m : Type → Type} [Monad m] {σ : Type}

/-- The loop from a phase on; `none` stands for fuel that ran out. -/
def run (w : World m) (onTimer : OnTimer m σ) :
    Nat → Phase → σ → TimerQueue → m (Option Outcome × σ × TimerQueue)
  | 0, _, node, q => return (none, node, q)
  | fuel + 1, .waiting, node, q => do
    if ← w.isShutdown then
      return (some .shutdown, node, q)
    match q.nextDeadline with
    | (none, q) =>
      w.note ⟨.debug, .dispatch, "no timers armed, executor idle", []⟩
      return (some .idle, node, q)
    | (some deadline, q) =>
      if ← w.sleepOrShutdown deadline then
        return (some .shutdown, node, q)
      run w onTimer fuel (.batch (← w.now)) node q
  | fuel + 1, .batch now, node, q => do
    match q.popDue now with
    | (none, q) => run w onTimer fuel .waiting node q
    | (some handle, q) =>
      let (node, q) ← onTimer handle node q
      if ← w.isShutdown then
        return (some .shutdown, node, q)
      run w onTimer fuel (.batch now) node q

/-- Dispatches timers to a node until shutdown or until none is left. -/
def spin (w : World m) (onTimer : OnTimer m σ) (fuel : Nat) (node : σ) (q : TimerQueue) :
    m (Option Outcome × σ × TimerQueue) :=
  run w onTimer fuel .waiting node q

end PacedImages.Dispatch
