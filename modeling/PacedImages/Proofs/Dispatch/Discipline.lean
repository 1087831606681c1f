import PacedImages.Proofs.Dispatch.Trace
import PacedImages.Scene

/-!
# The order of dispatch

Whatever a node does with the queue when a timer fires, the loop hands it only timers that are due
and still there, in the order of their deadlines and then of their handles, each expiry once, and
none after shutdown was requested. What carries this is that every expiry handed over is behind all
timers in the queue: a new timer starts from the present on, and a repeating one goes on after the
reading that the batch was popped by.
-/

namespace PacedImages.Dispatch

open TimerQueue (Regular)

variable {β σ : Type} {w : World (StateM β)} {onTimer : OnTimer (StateM β) σ}
  {clock : β → Instant} {stopped : β → Bool}

/-- A node whose callbacks may take time, and make whatever calls on the queue, with timers armed
from the present on. -/
structure Orderly (clock : β → Instant) (onTimer : OnTimer (StateM β) σ) : Prop where
  onward (h : Handle) (node : σ) (q : TimerQueue) (b : β) : clock b ≤ clock (onTimer h node q b).2
  calls (h : Handle) (node : σ) (q : TimerQueue) (b : β) : ∃ calls : List TimerCall,
    (∀ call ∈ calls, call.StartsFrom (clock b)) ∧
      (onTimer h node q b).1.2 = (replay TimerQueue.serve q calls).2

/-! ## What is behind the loop -/

namespace Firing

/-- A firing is behind: every timer comes after it, and no handle without a timer came back
since. -/
structure Behind (clock : β → Instant) (x : Firing β) (q : TimerQueue) (b : β) : Prop where
  reached : ∀ d ∈ x.deadline?, d ≤ clock b
  ahead : ∀ d ∈ x.deadline?, q.Ahead (d, x.handle)
  gone : ∀ h < x.left.nextHandle, x.left.timers[h]? = none →
    h < q.nextHandle ∧ q.timers[h]? = none

variable {x : Firing β} {q : TimerQueue} {b b' : β}

theorem Behind.onward (behind : x.Behind clock q b) (hle : clock b ≤ clock b') :
    x.Behind clock q b' where
  reached d hd := Nat.le_trans (behind.reached d hd) hle
  ahead := behind.ahead
  gone := behind.gone

theorem Behind.replay (regular : Regular q) (behind : x.Behind clock q b) (calls : List TimerCall)
    (starts : ∀ call ∈ calls, call.StartsFrom (clock b)) :
    x.Behind clock (replay TimerQueue.serve q calls).2 b where
  reached := behind.reached
  ahead := by
    intro d hd
    apply (behind.ahead d hd).replay regular
    intro call hmem
    exact (starts call hmem).mono (behind.reached d hd)
  gone := by
    intro h hold hnone
    obtain ⟨hgiven, hgone⟩ := behind.gone h hold hnone
    exact TimerQueue.replay_gone regular hgiven hgone calls

end Firing

/-- The firings so far are behind and came in order, and the queue is regular. -/
structure Ordered (clock : β → Instant) (past : List (Firing β)) (phase : Phase) (q : TimerQueue)
    (b : β) : Prop where
  regular : Regular q
  read : ∀ now, phase = .batch now → now ≤ clock b
  behind : ∀ x ∈ past, x.Behind clock q b
  punctual : ∀ x ∈ past, ∃ d ∈ x.deadline?, d ≤ x.now ∧ x.now ≤ clock x.called
  increasing : past.Pairwise Firing.Before
  spared : past.Pairwise fun x y =>
    ∀ h < x.left.nextHandle, x.left.isActive h = false → y.handle ≠ h

namespace Ordered

variable {past : List (Firing β)} {phase : Phase} {q q' : TimerQueue} {b b' : β} {now : Instant}

theorem start (regular : Regular q) (b : β) : Ordered clock [] .waiting q b where
  regular := regular
  read := by
    intro now hphase
    cases hphase
  behind x hx := by cases hx
  punctual x hx := by cases hx
  increasing := List.Pairwise.nil
  spared := List.Pairwise.nil

theorem onward (ordered : Ordered clock past phase q b) (hle : clock b ≤ clock b') :
    Ordered clock past phase q b' where
  regular := ordered.regular
  read now hphase := Nat.le_trans (ordered.read now hphase) hle
  behind x hx := (ordered.behind x hx).onward hle
  punctual := ordered.punctual
  increasing := ordered.increasing
  spared := ordered.spared

/-- Calls on the queue between two firings. -/
theorem replay (ordered : Ordered clock past phase q b) (calls : List TimerCall)
    (starts : ∀ call ∈ calls, call.StartsFrom (clock b)) :
    Ordered clock past phase (replay TimerQueue.serve q calls).2 b where
  regular := ordered.regular.replay calls
  read := ordered.read
  behind x hx := (ordered.behind x hx).replay ordered.regular calls starts
  punctual := ordered.punctual
  increasing := ordered.increasing
  spared := ordered.spared

theorem settled (ordered : Ordered clock past phase q b) : Ordered clock past phase q.settle b :=
  ordered.replay [.nextDeadline] fun _ hmem => List.mem_singleton.mp hmem ▸ trivial

theorem popped (ordered : Ordered clock past phase q b) {found : Option Handle}
    (hpop : q.popDue now = (found, q')) : Ordered clock past phase q' b := by
  have hserved := ordered.replay [.popDue now] fun _ hmem =>
    List.mem_singleton.mp hmem ▸ trivial
  have hq' : (PacedImages.replay TimerQueue.serve q [.popDue now]).2 = q' :=
    congrArg Prod.snd hpop
  exact hq' ▸ hserved

/-- The loop goes on to another phase, with the reading of the clock if that is a batch. -/
theorem enter (ordered : Ordered clock past phase q b) (next : Phase)
    (hread : ∀ now, next = .batch now → now ≤ clock b) : Ordered clock past next q b where
  regular := ordered.regular
  read := hread
  behind := ordered.behind
  punctual := ordered.punctual
  increasing := ordered.increasing
  spared := ordered.spared

/-- One more timer is handed to an orderly node. -/
theorem fired (orderly : Orderly clock onTimer) {node node' : σ} {q₁ : TimerQueue} {h : Handle}
    (slept : β) (ordered : Ordered clock past (.batch now) q b)
    (hpop : q.popDue now = (some h, q₁)) (hfired : onTimer h node q₁ b = ((node', q'), b'))
    (hrange : clock b < UInt64.size) :
    Ordered clock (past ++ [⟨h, q, now, slept, b, q', b'⟩]) (.batch now) q' b' := by
  have hnow : now ≤ clock b := ordered.read now rfl
  have ordered₁ := ordered.popped hpop
  obtain ⟨t, ht, hdue, ahead⟩ :=
    ordered.regular.popDue_ahead hpop (Nat.lt_of_le_of_lt hnow hrange)
  obtain ⟨calls, starts, hcalls⟩ := orderly.calls h node q₁ b
  have hle := orderly.onward h node q₁ b
  rw [hfired] at hcalls hle
  simp only at hcalls hle
  let x : Firing β := ⟨h, q, now, slept, b, q', b'⟩
  have hdeadline {d : Instant} : d ∈ x.deadline? ↔ d = t.deadline := by
    simp [x, Firing.deadline?, ht, eq_comm]
  have hbehind : x.Behind clock q' b' :=
    { reached := fun d hd =>
        hdeadline.mp hd ▸ Nat.le_trans hdue (Nat.le_trans hnow hle)
      ahead := fun d hd => by
        rw [hdeadline.mp hd, hcalls]
        apply ahead.replay ordered₁.regular
        intro call hmem
        exact (starts call hmem).mono (Nat.le_trans hdue hnow)
      gone := fun k hold hnone => ⟨hold, hnone⟩ }
  have ordered₂ : Ordered clock past (.batch now) q' b' :=
    hcalls ▸ (ordered₁.replay calls starts).onward hle
  constructor
  · exact ordered₂.regular
  · exact ordered₂.read
  · intro y hy
    rcases List.mem_append.mp hy with hy | hy
    · exact ordered₂.behind y hy
    · exact List.mem_singleton.mp hy ▸ hbehind
  · intro y hy
    rcases List.mem_append.mp hy with hy | hy
    · exact ordered.punctual y hy
    · rw [List.mem_singleton.mp hy]
      exact ⟨t.deadline, hdeadline.mpr rfl, hdue, hnow⟩
  · refine List.pairwise_append.mpr ⟨ordered.increasing, List.pairwise_singleton _ _, ?_⟩
    intro y hy z hz d hd e he
    rw [List.mem_singleton.mp hz] at he ⊢
    rw [hdeadline.mp he]
    exact ((ordered.behind y hy).ahead d hd).after h t ht
  · refine List.pairwise_append.mpr ⟨ordered.spared, List.pairwise_singleton _ _, ?_⟩
    intro y hy z hz k hold hdead
    rw [List.mem_singleton.mp hz]
    rw [TimerQueue.isActive_eq, Option.isSome_eq_false_iff, Option.isNone_iff_eq_none] at hdead
    have hnone := ((ordered.behind y hy).gone k hold hdead).2
    rintro rfl
    rw [ht] at hnone
    cases hnone

/-- Every round keeps the order. -/
theorem kept (time : w.KeepsTime clock) (orderly : Orderly clock onTimer) :
    Kept w onTimer clock UInt64.size fun past phase _ q b => Ordered clock past phase q b where
  moves := time.moves.mono fun _ _ hle _ _ _ _ ordered => ordered.onward hle
  settled ordered := ordered.settled
  woken {_ _ _ b} ordered := by
    obtain ⟨hle, hread⟩ := time.now b
    apply (ordered.onward (Nat.le_trans hle hread)).enter
    rintro now ⟨⟩
    exact hread
  drained ordered hpop := (ordered.popped hpop).enter .waiting (by simp)
  fired slept ordered hpop hfired hrange := ordered.fired orderly slept hpop hfired hrange

end Ordered

/-! ## Shutdown -/

section

variable {fuel : Nat} {slept b : β} {phase : Phase} {node : σ} {q : TimerQueue}
  {trace : List (Firing β)} {out : Ending σ β}

/-- A batch is popped by the reading taken when the sleep ended without a request, and a request
made during a callback is the last of the run. -/
theorem Runs.heeds (request : w.KeepsRequest stopped)
    (runs : Runs w onTimer fuel slept phase node q b trace out)
    (hread : ∀ now, phase = .batch now → now = (w.now slept).1 ∧ stopped slept = false) :
    (∀ x ∈ trace, x.now = (w.now x.slept).1 ∧ stopped x.slept = false) ∧
      trace.Pairwise fun x _ => stopped x.done = false := by
  induction runs with
  | outOfFuel => exact ⟨fun x hx => (by cases hx), List.Pairwise.nil⟩
  | stopped => exact ⟨fun x hx => (by cases hx), List.Pairwise.nil⟩
  | idle => exact ⟨fun x hx => (by cases hx), List.Pairwise.nil⟩
  | interrupted => exact ⟨fun x hx => (by cases hx), List.Pairwise.nil⟩
  | @woken _ _ _ b₁ b₂ _ _ _ _ deadline _ _ _ _ _ slept read _ ih =>
    apply ih
    rintro now ⟨⟩
    have hanswer := request.sleepOrShutdown deadline b₁
    rw [slept] at hanswer
    exact ⟨by rw [read], hanswer.symm⟩
  | drained _ _ ih =>
    apply ih
    intro now hphase
    cases hphase
  | halted =>
    refine ⟨?_, List.pairwise_singleton _ _⟩
    intro x hx
    rw [List.mem_singleton.mp hx]
    exact hread _ rfl
  | fired _ _ asked _ ih =>
    obtain ⟨hslept, hdone⟩ := ih hread
    refine ⟨?_, List.pairwise_cons.mpr ⟨fun _ _ => request.running asked, hdone⟩⟩
    intro x hx
    rcases List.mem_cons.mp hx with rfl | hx
    · exact hread _ rfl
    · exact hslept x hx

/-- How a run ends tells whether shutdown was requested, and if not, that nothing is left to wait
for. -/
theorem Runs.tells (request : w.KeepsRequest stopped)
    (runs : Runs w onTimer fuel slept phase node q b trace out) :
    (out.1.1 = some .shutdown → stopped out.2 = true) ∧
      (out.1.1 = some .idle → stopped out.2 = false ∧ out.1.2.2.expiries = []) := by
  have hask {b b' : β} {answer : Bool} (asked : w.isShutdown b = (answer, b')) :
      stopped b' = answer := by
    have hanswer := request.isShutdown b
    rw [asked] at hanswer
    exact hanswer.symm
  induction runs with
  | outOfFuel => exact ⟨fun h => (by cases h), fun h => (by cases h)⟩
  | stopped asked => exact ⟨fun _ => hask asked, fun h => (by cases h)⟩
  | @idle _ _ _ b₁ _ _ q _ asked next noted =>
    refine ⟨fun h => (by cases h), fun _ => ⟨?_, ?_⟩⟩
    · have hnote := request.note ⟨.debug, .dispatch, "no timers armed, executor idle", []⟩ b₁
      rw [noted] at hnote
      exact hnote.trans (hask asked)
    · obtain ⟨hnone, rfl⟩ := Prod.mk.inj next
      exact List.head?_eq_none_iff.mp (Option.map_eq_none_iff.mp hnone)
  | @interrupted _ _ _ b₁ _ _ _ _ deadline _ _ slept =>
    have hanswer := request.sleepOrShutdown deadline b₁
    rw [slept] at hanswer
    exact ⟨fun _ => hanswer.symm, fun h => (by cases h)⟩
  | woken _ _ _ _ _ ih => exact ih
  | drained _ _ ih => exact ih
  | halted _ _ asked => exact ⟨fun _ => hask asked, fun h => (by cases h)⟩
  | fired _ _ _ _ ih => exact ih

theorem Runs.outcome_iff (request : w.KeepsRequest stopped)
    (runs : Runs w onTimer fuel slept phase node q b trace out)
    (coherent : out.1.2.2.Coherent) (hended : out.1.1 ≠ none) :
    (out.1.1 = some .shutdown ↔ stopped out.2 = true) ∧
      (out.1.1 = some .idle ↔ stopped out.2 = false ∧ out.1.2.2.isEmpty = true) := by
  obtain ⟨hshutdown, hidle⟩ := runs.tells request
  rcases hout : out.1.1 with _ | _ | _
  · exact absurd hout hended
  · simp [hshutdown hout]
  · obtain ⟨hgoing, hnil⟩ := hidle hout
    simp [hgoing, (coherent.bare_of_expiries hnil).isEmpty]

end

/-- The discipline of a whole run. Every timer is live and due when it is handed to the node, and is
due by the reading taken for its batch; none is handed over that a callback left without. The
expiries come in strict order. No callback begins once shutdown was requested, be it before the
sleep ended or by another callback. The run tells of shutdown just if that is requested, and is idle
just if it is not and no timer is live. -/
theorem spin_dispatches_in_order (time : w.KeepsTime clock) (request : w.KeepsRequest stopped)
    (orderly : Orderly clock onTimer) {q : TimerQueue} (reachable : q.Reachable) (fuel : Nat)
    (node : σ) (b : β) (hrange : clock (spin w onTimer fuel node q b).2 < UInt64.size) :
    let out : Ending σ β := spin w onTimer fuel node q b
    ∃ trace, Runs w onTimer fuel b .waiting node q b trace out ∧
      (∀ x ∈ trace, x.queue.isActive x.handle = true ∧ x.now = (w.now x.slept).1 ∧
        ∃ d ∈ x.deadline?, d ≤ x.now ∧ x.now ≤ clock x.called) ∧
      (trace.Pairwise fun x y =>
        ∀ h < x.left.nextHandle, x.left.isActive h = false → y.handle ≠ h) ∧
      trace.Pairwise Firing.Before ∧
      (∀ x ∈ trace, stopped x.slept = false) ∧
      (trace.Pairwise fun x _ => stopped x.done = false) ∧
      (out.1.1 ≠ none →
        (out.1.1 = some .shutdown ↔ stopped out.2 = true) ∧
        (out.1.1 = some .idle ↔ stopped out.2 = false ∧ out.1.2.2.isEmpty = true)) := by
  intro out
  obtain ⟨trace, runs⟩ : ∃ trace, Runs w onTimer fuel b .waiting node q b trace out :=
    exists_runs w onTimer fuel b .waiting node q b
  obtain ⟨last, ordered⟩ := runs.keeps time orderly.onward (Ordered.kept time orderly) hrange []
    (Ordered.start reachable.regular b)
  obtain ⟨hslept, hdone⟩ := runs.heeds request (by simp)
  refine ⟨trace, runs, ?_, ordered.spared, ordered.increasing, fun x hx => (hslept x hx).2, hdone,
    runs.outcome_iff request ordered.regular.toCoherent⟩
  intro x hx
  obtain ⟨d, hd, hdue, hnow⟩ := ordered.punctual x hx
  refine ⟨?_, (hslept x hx).1, d, hd, hdue, hnow⟩
  obtain ⟨t, ht, _⟩ := Option.map_eq_some_iff.mp hd
  rw [TimerQueue.isActive_eq, ht]
  rfl

/-- Three timers wait, two of them for the same instant. With every call the node arms a timer that
is due at once and a repeating one and cancels a timer; the third call asks for shutdown while more
timers are due. -/
theorem spin_dispatches_in_order_mid_batch :
    let w := Scene.world
    let onTimer : OnTimer Staged Nat := fun h calls q => do
      let now ← w.now
      let q := (q.scheduleOnce now 0).2
      let q := (q.scheduleEvery now (Time.millis 2)).2
      let q := (q.cancel (h + 1)).2
      if calls = 2 then w.requestShutdown
      return (calls + 1, q)
    let q := (replay TimerQueue.serve .empty
      [.once 0 (Time.millis 1), .once 0 (Time.millis 1), .every 0 (Time.millis 5)]).2
    let b : Bench Scene := Bench.fresh Scene.fresh
    let out := spin w onTimer 10 0 q b
    q.Reachable ∧ out.2.clock = Time.millis 1 ∧ out.1.1 = some .shutdown ∧ out.1.2.1 = 3 ∧
      ∃ trace, Runs w onTimer 10 b .waiting 0 q b trace out ∧ trace.Pairwise Firing.Before ∧
        ∀ x ∈ trace, x.slept.shutdown = false := by
  intro w onTimer q b out
  have reachable : q.Reachable := ⟨_, rfl⟩
  have hout : out.2.clock = Time.millis 1 ∧ out.1.1 = some .shutdown ∧ out.1.2.1 = 3 := by
    simp only [out, b, q, onTimer, w]
    decide +kernel
  have orderly : Orderly (fun b : Bench Scene => b.clock) onTimer := by
    constructor
    · intro h calls q b
      by_cases hlast : calls = 2
      · simp only [onTimer, hlast]
        exact Nat.le_refl _
      · simp only [onTimer, if_neg hlast]
        exact Nat.le_refl _
    · intro h calls q b
      refine ⟨[.once b.clock 0, .every b.clock (Time.millis 2), .cancel (h + 1)], ?_, ?_⟩
      · simp [TimerCall.StartsFrom]
      · by_cases hlast : calls = 2
        · simp only [onTimer, hlast]
          rfl
        · simp only [onTimer, if_neg hlast]
          rfl
  have hrange : out.2.clock < UInt64.size := by
    rw [hout.1]
    decide
  obtain ⟨trace, runs, _, _, hincreasing, hslept, _⟩ := spin_dispatches_in_order
    (Bench.keepsTime Scene.outside) (Bench.keepsRequest Scene.outside) orderly reachable 10 0 b
    hrange
  exact ⟨reachable, hout.1, hout.2.1, hout.2.2, trace, runs, hincreasing, hslept⟩

end PacedImages.Dispatch
