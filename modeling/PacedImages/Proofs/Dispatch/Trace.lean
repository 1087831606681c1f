import PacedImages.Proofs.Dispatch.Loop
import PacedImages.Proofs.Time.Handles
import PacedImages.Proofs.WorldLaws

/-!
# Runs with their traces

The rounds of the dispatch loop as rules, with a trace of the timers that were handed to the node.
The rules say which actions are taken and in which order; the loop follows them for any world and
any node. What every round keeps, the timers fired so far taken into account, holds at the end of a
run.
-/

namespace PacedImages.Dispatch

variable {β σ : Type}

/-- A timer that was handed to the node. -/
structure Firing (β : Type) where
  handle : Handle
  /-- The queue that the timer was popped from. -/
  queue : TimerQueue
  /-- The reading of the clock for its batch. -/
  now : Instant
  /-- The world when the sleep before the batch ended. -/
  slept : β
  /-- The world when the node was called. -/
  called : β
  /-- The queue that the node left. -/
  left : TimerQueue
  /-- The world when the node was done. -/
  done : β

namespace Firing

/-- The deadline of the timer when it was popped, if it was there. -/
def deadline? (x : Firing β) : Option Instant := x.queue.timers[x.handle]?.map (·.deadline)

/-- The expiry of `x` comes before that of `y`. -/
def Before (x y : Firing β) : Prop :=
  ∀ d ∈ x.deadline?, ∀ e ∈ y.deadline?, TimerQueue.precedes (d, x.handle) (e, y.handle) = true

end Firing

/-- How a run ends: its outcome, the node and the queue, and the world. -/
abbrev Ending (σ β : Type) := (Option Outcome × σ × TimerQueue) × β

/-- The runs of so many rounds, from a phase on; the first world is the one in which the sleep
before the present batch ended. -/
inductive Runs (w : World (StateM β)) (onTimer : OnTimer (StateM β) σ) :
    Nat → β → Phase → σ → TimerQueue → β → List (Firing β) → Ending σ β → Prop where
  | outOfFuel {slept b : β} {phase : Phase} {node : σ} {q : TimerQueue} :
      Runs w onTimer 0 slept phase node q b [] ((none, node, q), b)
  | stopped {fuel : Nat} {slept b b' : β} {node : σ} {q : TimerQueue}
      (asked : w.isShutdown b = (true, b')) :
      Runs w onTimer (fuel + 1) slept .waiting node q b [] ((some .shutdown, node, q), b')
  | idle {fuel : Nat} {slept b b₁ b' : β} {node : σ} {q q' : TimerQueue}
      (asked : w.isShutdown b = (false, b₁)) (next : q.nextDeadline = (none, q'))
      (noted : w.note ⟨.debug, .dispatch, "no timers armed, executor idle", []⟩ b₁ = ((), b')) :
      Runs w onTimer (fuel + 1) slept .waiting node q b [] ((some .idle, node, q'), b')
  | interrupted {fuel : Nat} {slept b b₁ b' : β} {node : σ} {q q' : TimerQueue}
      {deadline : Instant} (asked : w.isShutdown b = (false, b₁))
      (next : q.nextDeadline = (some deadline, q'))
      (slept' : w.sleepOrShutdown deadline b₁ = (true, b')) :
      Runs w onTimer (fuel + 1) slept .waiting node q b [] ((some .shutdown, node, q'), b')
  | woken {fuel : Nat} {slept b b₁ b₂ b₃ : β} {node : σ} {q q' : TimerQueue}
      {deadline now : Instant} {trace : List (Firing β)} {out : Ending σ β}
      (asked : w.isShutdown b = (false, b₁)) (next : q.nextDeadline = (some deadline, q'))
      (slept' : w.sleepOrShutdown deadline b₁ = (false, b₂)) (read : w.now b₂ = (now, b₃))
      (rest : Runs w onTimer fuel b₂ (.batch now) node q' b₃ trace out) :
      Runs w onTimer (fuel + 1) slept .waiting node q b trace out
  | drained {fuel : Nat} {slept b : β} {node : σ} {q q' : TimerQueue} {now : Instant}
      {trace : List (Firing β)} {out : Ending σ β} (popped : q.popDue now = (none, q'))
      (rest : Runs w onTimer fuel slept .waiting node q' b trace out) :
      Runs w onTimer (fuel + 1) slept (.batch now) node q b trace out
  | halted {fuel : Nat} {slept b b₁ b' : β} {node node' : σ} {q q₁ q' : TimerQueue}
      {now : Instant} {handle : Handle} (popped : q.popDue now = (some handle, q₁))
      (fired : onTimer handle node q₁ b = ((node', q'), b₁))
      (asked : w.isShutdown b₁ = (true, b')) :
      Runs w onTimer (fuel + 1) slept (.batch now) node q b [⟨handle, q, now, slept, b, q', b₁⟩]
        ((some .shutdown, node', q'), b')
  | fired {fuel : Nat} {slept b b₁ b₂ : β} {node node' : σ} {q q₁ q' : TimerQueue}
      {now : Instant} {handle : Handle} {trace : List (Firing β)} {out : Ending σ β}
      (popped : q.popDue now = (some handle, q₁))
      (fired : onTimer handle node q₁ b = ((node', q'), b₁))
      (asked : w.isShutdown b₁ = (false, b₂))
      (rest : Runs w onTimer fuel slept (.batch now) node' q' b₂ trace out) :
      Runs w onTimer (fuel + 1) slept (.batch now) node q b
        (⟨handle, q, now, slept, b, q', b₁⟩ :: trace) out

/-- The loop follows the rules. -/
theorem exists_runs (w : World (StateM β)) (onTimer : OnTimer (StateM β) σ) (fuel : Nat) (slept : β)
    (phase : Phase) (node : σ) (q : TimerQueue) (b : β) :
    ∃ trace,
      Runs w onTimer fuel slept phase node q b trace (run w onTimer fuel phase node q b) := by
  induction fuel generalizing slept phase node q b with
  | zero => exact ⟨[], .outOfFuel⟩
  | succ fuel ih =>
    cases phase with
    | waiting =>
      rw [run_waiting]
      rcases hasked : w.isShutdown b with ⟨_ | _, b₁⟩
      · have hnext : q.nextDeadline = (q.nextDeadline.1, q.settle) := rfl
        simp only [Bool.false_eq_true, if_false]
        cases hfound : q.nextDeadline.1 with
        | none => exact ⟨[], .idle hasked (hfound ▸ hnext) rfl⟩
        | some deadline =>
          rw [hfound] at hnext
          simp only
          rcases hslept : w.sleepOrShutdown deadline b₁ with ⟨_ | _, b₂⟩
          · obtain ⟨trace, rest⟩ := ih b₂ (.batch (w.now b₂).1) node q.settle (w.now b₂).2
            exact ⟨trace, .woken hasked hnext hslept rfl rest⟩
          · exact ⟨[], .interrupted hasked hnext hslept⟩
      · exact ⟨[], .stopped hasked⟩
    | batch now =>
      rw [run_batch]
      rcases hpop : q.popDue now with ⟨_ | handle, q₁⟩
      · obtain ⟨trace, rest⟩ := ih slept .waiting node q₁ b
        exact ⟨trace, .drained hpop rest⟩
      · simp only
        rcases hfired : onTimer handle node q₁ b with ⟨⟨node', q'⟩, b₁⟩
        simp only
        rcases hasked : w.isShutdown b₁ with ⟨_ | _, b₂⟩
        · obtain ⟨trace, rest⟩ := ih slept (.batch now) node' q' b₂
          exact ⟨_, .fired hpop hfired hasked rest⟩
        · exact ⟨_, .halted hpop hfired hasked⟩

/-! ## Whole runs -/

section

variable {w : World (StateM β)} {onTimer : OnTimer (StateM β) σ} {clock : β → Instant}
  {fuel : Nat} {slept b : β} {phase : Phase} {node : σ} {q : TimerQueue} {trace : List (Firing β)}
  {out : Ending σ β}

/-- The clock goes on from a call to the end of the look for shutdown after it. -/
theorem le_of_call (time : w.KeepsTime clock)
    (hcallbacks : ∀ h node q b, clock b ≤ clock (onTimer h node q b).2) {h : Handle} {b b₁ b₂ : β}
    {left : σ × TimerQueue} {answer : Bool} (fired : onTimer h node q b = (left, b₁))
    (asked : w.isShutdown b₁ = (answer, b₂)) : clock b ≤ clock b₂ := by
  have hcall := hcallbacks h node q b
  have hask := time.moves.isShutdown b₁
  rw [fired] at hcall
  rw [asked] at hask
  exact Nat.le_trans hcall hask

/-- The clock goes on in a run if it does in the world and in the callbacks. -/
theorem Runs.onward (time : w.KeepsTime clock)
    (hcallbacks : ∀ h node q b, clock b ≤ clock (onTimer h node q b).2)
    (runs : Runs w onTimer fuel slept phase node q b trace out) : clock b ≤ clock out.2 := by
  have hask {b b' : β} {answer : Bool} (asked : w.isShutdown b = (answer, b')) :
      clock b ≤ clock b' := by
    have hle := time.moves.isShutdown b
    rwa [asked] at hle
  have hsleep {b b' : β} {deadline : Instant} {answer : Bool}
      (slept : w.sleepOrShutdown deadline b = (answer, b')) : clock b ≤ clock b' := by
    have hle := time.moves.sleepOrShutdown deadline b
    rwa [slept] at hle
  induction runs with
  | outOfFuel => exact Nat.le_refl _
  | stopped asked => exact hask asked
  | @idle _ _ _ b₁ _ _ _ _ asked _ noted =>
    have hle := time.moves.note ⟨.debug, .dispatch, "no timers armed, executor idle", []⟩ b₁
    rw [noted] at hle
    exact Nat.le_trans (hask asked) hle
  | interrupted asked _ slept => exact Nat.le_trans (hask asked) (hsleep slept)
  | @woken _ _ _ _ b₂ _ _ _ _ _ _ _ _ asked _ slept read _ ih =>
    have hle := time.moves.now b₂
    rw [read] at hle
    exact Nat.le_trans (hask asked) (Nat.le_trans (hsleep slept) (Nat.le_trans hle ih))
  | drained _ _ ih => exact ih
  | halted _ fired asked => exact le_of_call time hcallbacks fired asked
  | fired _ fired asked _ ih => exact Nat.le_trans (le_of_call time hcallbacks fired asked) ih

/-- What holds of the timers fired so far and of where the loop is, and is kept by every step of a
round as long as the clock is below a limit. -/
structure Kept (w : World (StateM β)) (onTimer : OnTimer (StateM β) σ) (clock : β → Instant)
    (limit : Instant) (I : List (Firing β) → Phase → σ → TimerQueue → β → Prop) : Prop where
  moves : w.Moves fun b b' => ∀ past phase node q, I past phase node q b → I past phase node q b'
  settled {past : List (Firing β)} {node : σ} {q : TimerQueue} {b : β} :
    I past .waiting node q b → I past .waiting node q.settle b
  woken {past : List (Firing β)} {node : σ} {q : TimerQueue} {b : β} :
    I past .waiting node q b → I past (.batch (w.now b).1) node q (w.now b).2
  drained {past : List (Firing β)} {node : σ} {q q' : TimerQueue} {b : β} {now : Instant} :
    I past (.batch now) node q b → q.popDue now = (none, q') → I past .waiting node q' b
  fired {past : List (Firing β)} {node node' : σ} {q q₁ q' : TimerQueue} {b b' : β}
    {now : Instant} {h : Handle} (slept : β) :
    I past (.batch now) node q b → q.popDue now = (some h, q₁) →
      onTimer h node q₁ b = ((node', q'), b') → clock b < limit →
      I (past ++ [⟨h, q, now, slept, b, q', b'⟩]) (.batch now) node' q' b'

/-- What every round keeps holds at the end. -/
theorem Runs.keeps {limit : Instant} {I : List (Firing β) → Phase → σ → TimerQueue → β → Prop}
    (time : w.KeepsTime clock)
    (hcallbacks : ∀ h node q b, clock b ≤ clock (onTimer h node q b).2)
    (kept : Kept w onTimer clock limit I)
    (runs : Runs w onTimer fuel slept phase node q b trace out) (hrange : clock out.2 < limit)
    (past : List (Firing β)) (start : I past phase node q b) :
    ∃ last, I (past ++ trace) last out.1.2.1 out.1.2.2 out.2 := by
  have hask {past : List (Firing β)} {phase : Phase} {node : σ} {q : TimerQueue} {b b' : β}
      {answer : Bool} (hI : I past phase node q b) (asked : w.isShutdown b = (answer, b')) :
      I past phase node q b' := by
    have hmoved := kept.moves.isShutdown b past phase node q hI
    rwa [asked] at hmoved
  have hsleep {past : List (Firing β)} {node : σ} {q q' : TimerQueue} {b b' : β}
      {deadline : Instant} {next : Option Instant} {answer : Bool} (hI : I past .waiting node q b)
      (hnext : q.nextDeadline = (next, q')) (slept : w.sleepOrShutdown deadline b = (answer, b')) :
      I past .waiting node q' b' := by
    have hmoved := kept.moves.sleepOrShutdown deadline b past .waiting node q hI
    rw [slept] at hmoved
    have hq' : q' = q.settle := (congrArg Prod.snd hnext).symm
    exact hq' ▸ kept.settled hmoved
  induction runs generalizing past with
  | outOfFuel => exact ⟨_, (List.append_nil past).symm ▸ start⟩
  | stopped asked => exact ⟨_, (List.append_nil past).symm ▸ hask start asked⟩
  | @idle _ _ _ b₁ _ _ _ q' asked hnext noted =>
    have hmoved := kept.moves.note ⟨.debug, .dispatch, "no timers armed, executor idle", []⟩ b₁
      past .waiting _ _ (hask start asked)
    rw [noted] at hmoved
    have hq' : q' = _ := (congrArg Prod.snd hnext).symm
    subst hq'
    exact ⟨_, (List.append_nil past).symm ▸ kept.settled hmoved⟩
  | interrupted asked hnext slept =>
    exact ⟨_, (List.append_nil past).symm ▸ hsleep (hask start asked) hnext slept⟩
  | woken asked hnext slept read _ ih =>
    have hwoken := kept.woken (hsleep (hask start asked) hnext slept)
    rw [read] at hwoken
    exact ih hrange past hwoken
  | drained popped _ ih => exact ih hrange past (kept.drained start popped)
  | @halted _ slept _ _ _ _ _ _ _ _ _ _ popped fired asked =>
    have hb := Nat.lt_of_le_of_lt (le_of_call time hcallbacks fired asked) hrange
    exact ⟨_, hask (kept.fired slept start popped fired hb) asked⟩
  | @fired _ slept _ _ _ _ _ _ _ _ _ _ _ _ popped fired asked rest ih =>
    have hend := Nat.lt_of_le_of_lt (rest.onward time hcallbacks) hrange
    have hb := Nat.lt_of_le_of_lt (le_of_call time hcallbacks fired asked) hend
    have hrest := ih hrange _ (hask (kept.fired slept start popped fired hb) asked)
    rwa [List.append_assoc] at hrest

end

end PacedImages.Dispatch
