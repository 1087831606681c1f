import PacedImages.Proofs.Metrics
import PacedImages.Proofs.Param.FileWatch
import PacedImages.Proofs.Publisher.Steps

/-!
# Accounting for images

A publisher that sends an image waits for the answer of the transport and then counts it, so a tick
falls into two parts between which others may go on: up to the answer nothing is counted, and after
it one attempt. No other call of a publisher counts anything.
-/

namespace PacedImages

/-- Of the actions that a publisher takes, only counting changes the metrics. -/
structure World.KeepsMetrics {β : Type} (w : World (StateM β)) (metrics : β → Metrics) : Prop where
  now (b : β) : metrics (w.now b).2 = metrics b
  reading (b : β) : metrics (w.reading b).2 = metrics b
  reserve (size : Nat) (b : β) : metrics (w.reserve size b).2 = metrics b
  drawKey (b : β) : metrics (w.drawKey b).2 = metrics b
  advertise (subject : String) (depth : Nat) (b : β) :
    metrics (w.advertise subject depth b).2 = metrics b
  publish (subject : String) (payload : ByteArray) (headers : Headers) (b : β) :
    metrics (w.publish subject payload headers b).2 = metrics b
  requestShutdown (b : β) : metrics (w.requestShutdown b).2 = metrics b
  note (entry : LogEntry) (b : β) : metrics (w.note entry b).2 = metrics b
  count (change : Metrics → Metrics) (b : β) :
    metrics (w.count change b).2 = change (metrics b)

namespace Bench

variable {ω : Type}

theorem metrics_happen (b : Bench ω) : b.happen.metrics = b.metrics := by
  obtain ⟨shutdown, heq⟩ := happen_eq b
  rw [heq]

theorem metrics_sleepUntil (t : Instant) (b : Bench ω) :
    (b.sleepUntil t).metrics = b.metrics := by
  rw [sleepUntil]
  split
  · rfl
  · obtain ⟨clock, shutdown, heq⟩ := passPlan_eq (Time.begun t) b.giveWay.plan b.giveWay
    rw [heq]
    exact metrics_happen b.beginAll

theorem keepsMetrics (o : Outside ω) : (world o).KeepsMetrics (·.metrics) where
  now _ := rfl
  reading _ := rfl
  reserve _ _ := rfl
  drawKey _ := rfl
  advertise _ _ _ := rfl
  publish subject payload headers b := by
    show (publish o subject payload headers b).2.metrics = b.metrics
    simp only [publish]
    split
    · rfl
    · exact metrics_sleepUntil _ _
  requestShutdown _ := rfl
  note _ _ := rfl
  count _ _ := rfl

end Bench

namespace Publisher

/-- The answer of the transport to an image, and what the publisher knows of its stamps by then. -/
structure Answer where
  stamper : Stamper
  result : Except TransportError Unit
  seconds : Float

/-- The attempt that an answer ends. -/
def Answer.attempt (answer : Answer) (p : Publisher) : Attempt :=
  ⟨p.name, p.payload.size, answer.result.isOk⟩

section

variable {m : Type → Type} [Monad m]

/-- The part of a tick up to the answer of the transport. -/
def send (w : World m) (p : Publisher) : m Answer := do
  let (stamp, stamper) := p.stamper.stamp (← w.reading)
  let image := Image.square stamp p.settings.dimension p.payload
  let (result, seconds) ← w.publish p.outlet.subject image.data image.headers
  return { stamper, result, seconds }

/-- The part of a tick from the answer on. -/
def settle (w : World m) (p : Publisher) (q : TimerQueue) (answer : Answer) :
    m (Publisher × TimerQueue) := do
  let p := { p with stamper := answer.stamper, published := p.published + 1 }
  account w p answer.result answer.seconds
  if p.settings.maxCount ≤ p.published then terminate w p q else return (p, q)

end

/-- What can be asked of a publisher that was started. -/
inductive Call where
  | timer (h : Handle)
  | delayElapsed
  | tick
  | terminate

namespace Call

def act {m : Type → Type} [Monad m] (w : World m) :
    Call → Publisher → TimerQueue → m (Publisher × TimerQueue)
  | .timer h => onTimer w h
  | .delayElapsed => Publisher.delayElapsed w
  | .tick => Publisher.tick w
  | .terminate => Publisher.terminate w

/-- The call sends an image: a tick, or the timer of the period, while publishing. -/
def Sends (p : Publisher) : Call → Prop
  | .timer h => p.phase = .publishing ∧ p.publishTimer = some h
  | .tick => p.phase = .publishing
  | .delayElapsed | .terminate => False

end Call

/-- In `p'` the publisher is as in `p` but for its phase and the timers it remembers. -/
structure Rephased (p p' : Publisher) : Prop where
  name : p'.name = p.name
  settings : p'.settings = p.settings
  payload : p'.payload = p.payload
  published : p'.published = p.published
  ended : p.phase = .terminated → p'.phase = .terminated

theorem Rephased.refl (p : Publisher) : Rephased p p := ⟨rfl, rfl, rfl, rfl, id⟩

section

variable {β : Type} {w : World (StateM β)} {metrics : β → Metrics} {p : Publisher} {q : TimerQueue}
  {b : β} {c : Call} {answer : Answer}

/-- A tick while publishing is the one part after the other. -/
theorem tick_eq_settle (h : p.phase = .publishing) :
    tick w p q b = settle w p q (send w p b).1 (send w p b).2 := by
  rw [tick_eq w p q b h]
  simp only [settle, bind_apply]
  split <;> rfl

theorem Call.act_of_sends (sends : c.Sends p) :
    p.phase = .publishing ∧ c.act w p q b = settle w p q (send w p b).1 (send w p b).2 := by
  cases c with
  | timer h =>
    obtain ⟨hphase, htimer⟩ := sends
    refine ⟨hphase, ?_⟩
    rw [act, onTimer_publishing w p q hphase htimer]
    exact tick_eq_settle hphase
  | tick => exact ⟨sends, tick_eq_settle sends⟩
  | delayElapsed => exact sends.elim
  | terminate => exact sends.elim

theorem terminate_rephases (keeps : w.KeepsMetrics metrics) :
    metrics (terminate w p q b).2 = metrics b ∧ Rephased p (terminate w p q b).1.1 ∧
      (terminate w p q b).1.1.phase = .terminated := by
  by_cases h : p.phase = .terminated
  · rw [terminate_of_terminated w p q b h]
    exact ⟨rfl, .refl p, h⟩
  · rw [terminate_eq w p q b h]
    refine ⟨?_, ⟨rfl, rfl, rfl, rfl, fun _ => rfl⟩, rfl⟩
    exact (keeps.requestShutdown _).trans (keeps.note _ _)

theorem delayElapsed_rephases (keeps : w.KeepsMetrics metrics) :
    metrics (delayElapsed w p q b).2 = metrics b ∧ Rephased p (delayElapsed w p q b).1.1 := by
  by_cases h : p.phase = .delaying
  · rw [delayElapsed_eq w p q b h]
    refine ⟨(keeps.note _ _).trans (keeps.now _), rfl, rfl, rfl, rfl, ?_⟩
    rw [h]
    exact nofun
  · rw [delayElapsed_of_ne w p q b h]
    exact ⟨rfl, .refl p⟩

/-- A call that sends no image counts nothing. -/
theorem Call.act_of_not_sends (keeps : w.KeepsMetrics metrics) (silent : ¬ c.Sends p) :
    metrics (c.act w p q b).2 = metrics b ∧ Rephased p (c.act w p q b).1.1 := by
  cases c with
  | timer h =>
    by_cases hdelay : p.phase = .delaying ∧ p.delayTimer = some h
    · rw [act, onTimer_delaying w p q hdelay.1 hdelay.2]
      exact delayElapsed_rephases keeps
    · rw [act, onTimer_other w p q b h hdelay silent]
      exact ⟨keeps.note _ _, .refl p⟩
  | tick =>
    rw [act, tick_of_ne w p q b silent]
    exact ⟨rfl, .refl p⟩
  | delayElapsed => exact delayElapsed_rephases keeps
  | terminate =>
    obtain ⟨hmetrics, rephased, _⟩ := terminate_rephases (p := p) (q := q) (b := b) keeps
    exact ⟨hmetrics, rephased⟩

theorem metrics_send (keeps : w.KeepsMetrics metrics) : metrics (send w p b).2 = metrics b :=
  (keeps.publish _ _ _ _).trans (keeps.reading _)

theorem metrics_account (keeps : w.KeepsMetrics metrics) :
    metrics (account w p answer.result answer.seconds b).2 =
      (metrics b).update p.name ((answer.attempt p).record answer.seconds) := by
  obtain ⟨stamper, result, seconds⟩ := answer
  cases result with
  | ok u => exact (keeps.note _ _).trans (keeps.count _ _)
  | error e => exact (keeps.note _ _).trans (keeps.count _ _)

/-- The attempt is counted by the metrics and by the publisher, which goes on if it has not made
all it was asked for. -/
theorem settle_counts (keeps : w.KeepsMetrics metrics) (p : Publisher) (q : TimerQueue)
    (answer : Answer) (b : β) :
    metrics (settle w p q answer b).2 =
      (metrics b).update p.name ((answer.attempt p).record answer.seconds) ∧
    Rephased { p with stamper := answer.stamper, published := p.published + 1 }
      (settle w p q answer b).1.1 ∧
    ((settle w p q answer b).1.1.phase ≠ .terminated → p.published + 1 < p.settings.maxCount) := by
  let next : Publisher := { p with stamper := answer.stamper, published := p.published + 1 }
  let counted := (account w next answer.result answer.seconds b).2
  have hcounted : metrics counted =
      (metrics b).update p.name ((answer.attempt p).record answer.seconds) :=
    metrics_account (p := next) keeps
  have heq : settle w p q answer b =
      if p.settings.maxCount ≤ p.published + 1 then terminate w next q counted
      else ((next, q), counted) := by
    simp only [settle, bind_apply]
    split <;> rfl
  by_cases hlast : p.settings.maxCount ≤ p.published + 1
  · obtain ⟨hmetrics, rephased, hended⟩ :=
      terminate_rephases (p := next) (q := q) (b := counted) keeps
    rw [heq, if_pos hlast]
    exact ⟨hmetrics.trans hcounted, rephased, fun hgoing => absurd hended hgoing⟩
  · rw [heq, if_neg hlast]
    exact ⟨hcounted, .refl next, fun _ => UInt32.not_le.mp hlast⟩

/-- A publisher starts with a series of its name and no attempt. -/
theorem start_touches (keeps : w.KeepsMetrics metrics) {name topic : String} {settings : Settings}
    {depth : Nat} {book : SubjectBook} {q' : TimerQueue} {b' : β}
    (hstart : (start w name topic settings depth book q).run b = (.ok (p, q'), b')) :
    metrics b' = (metrics b).touch name ∧ settings.validate = .ok () ∧
      ∃ outlet payload timer, p = launched name settings outlet payload timer := by
  obtain ⟨hvalid, subject, size, payload, _, _, _, _, hlaunch⟩ := start_ok w p q b hstart
  obtain ⟨hbegun, rfl⟩ := Prod.mk.inj hlaunch
  obtain ⟨rfl, -⟩ := Prod.mk.inj hbegun
  refine ⟨?_, hvalid, _, _, _, rfl⟩
  rw [keeps.note, keeps.now, keeps.count, keeps.note, keeps.drawKey, keeps.reserve, keeps.note,
    keeps.advertise]

end

end Publisher

end PacedImages
