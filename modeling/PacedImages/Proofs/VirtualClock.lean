import PacedImages.Proofs.Dispatch.Loop
import PacedImages.World

/-!
# Virtual clocks

Under a virtual clock only sleeping takes time. A sleep ends at its deadline exactly, or at the
instant at which shutdown is requested from outside, if that comes earlier. Nothing is said of a
sleep that would end at that very instant, nor of what the transport answers. Which deadlines are
met exactly is left to the clock: one of whole milliseconds meets those between two of them late.
-/

namespace PacedImages

/-- What shows of a world. -/
structure Moment where
  clock : Instant
  /-- Whether shutdown is requested. -/
  stopped : Bool
  /-- When images were handed to the transport, in order. -/
  sent : List Instant

/-- Whether an instant comes before the request from outside, if there is one. -/
def precedesRequest (external : Option Instant) (t : Instant) : Bool := external.all (t < ·)

theorem precedesRequest_some {s t : Instant} : precedesRequest (some s) t = true ↔ t < s :=
  decide_eq_true_iff

theorem not_precedesRequest_some {s t : Instant} : precedesRequest (some s) t = false ↔ s ≤ t :=
  decide_eq_false_iff_not.trans Nat.not_lt

/-- The world `w` runs under a virtual clock: `shows b v` says that its state `b` shows `v`. -/
structure VirtualClock {β : Type} (w : World (StateM β)) (exact : Instant → Prop)
    (external : Option Instant) (shows : β → Moment → Prop) : Prop where
  now {b v} : shows b v → (w.now b).1 = v.clock ∧ shows (w.now b).2 v
  isShutdown {b v} : shows b v → (w.isShutdown b).1 = v.stopped ∧ shows (w.isShutdown b).2 v
  requestShutdown {b v} : shows b v → shows (w.requestShutdown b).2 { v with stopped := true }
  reading {b v} : shows b v → shows (w.reading b).2 v
  reserve {b v} (size : Nat) : shows b v → shows (w.reserve size b).2 v
  drawKey {b v} : shows b v → shows (w.drawKey b).2 v
  advertise {b v} (subject : String) (depth : Nat) :
    shows b v → shows (w.advertise subject depth b).2 v
  count {b v} (change : Metrics → Metrics) : shows b v → shows (w.count change b).2 v
  note {b v} (entry : LogEntry) : shows b v → shows (w.note entry b).2 v
  publish {b v} (subject : String) (payload : ByteArray) (headers : Headers) : shows b v →
    shows (w.publish subject payload headers b).2 { v with sent := v.sent ++ [v.clock] }
  sleep {b v} (t : Instant) : shows b v → v.stopped = false → v.clock ≤ t → exact t →
    precedesRequest external t = true →
    (w.sleepOrShutdown t b).1 = false ∧
      shows (w.sleepOrShutdown t b).2 { v with clock := t }
  cut {b v} (s t : Instant) : shows b v → v.stopped = false → external = some s →
    v.clock < s → s < t → exact t →
    (w.sleepOrShutdown t b).1 = true ∧
      shows (w.sleepOrShutdown t b).2 { v with clock := s, stopped := true }

namespace VirtualClock

variable {β σ : Type} {w : World (StateM β)} {exact : Instant → Prop} {external : Option Instant}
  {shows : β → Moment → Prop} {q : TimerQueue} {b : β} {v : Moment}

/-- A round that sleeps to the next deadline. -/
theorem run_sleep (virtual : VirtualClock w exact external shows)
    (onTimer : Dispatch.OnTimer (StateM β) σ) (node : σ) (fuel : Nat) (hb : shows b v)
    (hrunning : v.stopped = false) {t : Instant} (hnext : q.nextDeadline.1 = some t)
    (hle : v.clock ≤ t) (hexact : exact t) (hbefore : precedesRequest external t = true) :
    ∃ b', shows b' { v with clock := t } ∧
      Dispatch.run w onTimer (fuel + 1) .waiting node q b =
        Dispatch.run w onTimer fuel (.batch t) node q.settle b' := by
  have hasked := virtual.isShutdown hb
  have hslept := virtual.sleep t hasked.2 hrunning hle hexact hbefore
  have hread := virtual.now hslept.2
  refine ⟨_, hread.2, ?_⟩
  rw [Dispatch.run_waiting]
  simp only [hasked.1, hrunning, hnext, hslept.1, hread.1, Bool.false_eq_true, if_false]

/-- A round in which shutdown is requested while the loop sleeps. -/
theorem run_cut (virtual : VirtualClock w exact external shows)
    (onTimer : Dispatch.OnTimer (StateM β) σ) (node : σ) (fuel : Nat) (hb : shows b v)
    (hrunning : v.stopped = false) {s t : Instant} (hnext : q.nextDeadline.1 = some t)
    (hs : external = some s) (hlt : v.clock < s) (hst : s < t) (hexact : exact t) :
    ∃ b', shows b' { v with clock := s, stopped := true } ∧
      Dispatch.run w onTimer (fuel + 1) .waiting node q b =
        ((some .shutdown, node, q.settle), b') := by
  have hasked := virtual.isShutdown hb
  have hslept := virtual.cut s t hasked.2 hrunning hs hlt hst hexact
  refine ⟨_, hslept.2, ?_⟩
  rw [Dispatch.run_waiting]
  simp only [hasked.1, hrunning, hnext, hslept.1, Bool.false_eq_true, if_false, if_true]

/-- A round that hands a timer to the node. -/
theorem run_fire (virtual : VirtualClock w exact external shows)
    {onTimer : Dispatch.OnTimer (StateM β) σ} {node node' : σ} {now : Instant} {h : Handle}
    {q' q'' : TimerQueue} {b' : β} (fuel : Nat) (hpop : q.popDue now = (some h, q'))
    (hfired : onTimer h node q' b = ((node', q''), b')) (hb' : shows b' v) :
    ∃ b'', shows b'' v ∧
      Dispatch.run w onTimer (fuel + 1) (.batch now) node q b =
        if v.stopped then ((some .shutdown, node', q''), b'')
        else Dispatch.run w onTimer fuel (.batch now) node' q'' b'' := by
  have hasked := virtual.isShutdown hb'
  refine ⟨_, hasked.2, ?_⟩
  rw [Dispatch.run_batch]
  simp only [hpop, hfired, hasked.1]

end VirtualClock

end PacedImages
