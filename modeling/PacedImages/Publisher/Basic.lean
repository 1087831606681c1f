import PacedImages.Dispatch
import PacedImages.Messaging.Bus
import PacedImages.Publisher.Load

/-!
# Publishers

A publisher sends images with one payload on one topic. It waits for its start delay, then sends one
image each period until it has sent as many as it was told to, and then asks for shutdown; an image
that the transport refuses counts as sent. It is driven by two timers, a single one for the delay and
a repeating one for the period, and takes no notice of any other.
-/

namespace PacedImages

namespace Publisher

/-- A publisher goes through its phases in this order and never back. -/
inductive Phase where
  | constructed
  | delaying
  | publishing
  | terminated
deriving Repr, DecidableEq

def Phase.name : Phase → String
  | .constructed => "constructed"
  | .delaying => "delaying"
  | .publishing => "publishing"
  | .terminated => "terminated"

end Publisher

structure Publisher where
  name : String
  settings : Settings
  outlet : Advertisement
  payload : ByteArray
  stamper : Stamper
  phase : Publisher.Phase
  /-- How many images were handed to the transport, those that it refused included. -/
  published : UInt32
  delayTimer : Option Handle
  publishTimer : Option Handle

namespace Publisher

/-- Why a publisher does not start. -/
inductive Halt where
  | failed (error : WorkerError)
  /-- The process stops where it is. -/
  | crashed
  /-- The settings were still waited for when the fuel ran out. -/
  | unfinished

/-- A timer as reports show it. -/
def handleText (handle : Handle) : String := s!"TimerHandle({handle})"

/-- Cancels a timer if there is one. -/
def cancelTimer (timer : Option Handle) (q : TimerQueue) : TimerQueue :=
  match timer with
  | some handle => (q.cancel handle).2
  | none => q

variable {m : Type → Type} [Monad m]

/-- The outcome of a step as an exception of the start. -/
def orFail (result : Except WorkerError α) : ExceptT Halt m α :=
  match result with
  | .ok a => pure a
  | .error e => throw (.failed e)

/-- Registers the topic. -/
def register (w : World m) (book : SubjectBook) (topic : String) (depth : Nat) :
    ExceptT Halt m Advertisement := do
  let subject ← orFail ((book.subject topic).1.mapError .transport)
  match ← w.advertise subject depth with
  | .ok () =>
    w.note ⟨.debug, .topics, "topic advertised",
      [("topic", .text topic), ("subject", .words subject), ("queue_depth", .number depth)]⟩
    return ⟨topic, subject, depth⟩
  | .error (.refused e) => throw (.failed (.transport e))
  | .error .crash => throw .crashed

/-- Starts a publisher: registers its topic, makes the payload and arms the start delay. -/
def start (w : World m) (name topic : String) (settings : Settings) (depth : Nat)
    (book : SubjectBook) (q : TimerQueue) : ExceptT Halt m (Publisher × TimerQueue) := do
  orFail (settings.validate.mapError .invalidSettings)
  let outlet ← register w book topic depth
  let size ← orFail (settings.payloadSize.mapError .invalidSettings)
  let isGranted ← w.reserve size
  let drawn ← w.drawKey
  let payload ← orFail ((Payload.generate size settings.seed drawn isGranted).mapError
    fun fault => .invalidSettings (.noMemory size fault))
  w.note ⟨.info, .publisher, "generated payload",
    [("publisher", .text name), ("payload_bytes", .number size), ("elapsed_secs", .real 0.0)]⟩
  w.count (·.touch name)
  let (delayTimer, q) := q.scheduleOnce (← w.now) settings.startDelay
  w.note ⟨.info, .publisher, "waiting before first publish",
    [("publisher", .text name), ("topic", .text topic), ("subject", .text outlet.subject),
      ("delay_ms", .number (settings.startDelay / Time.nanosPerMilli))]⟩
  let publisher : Publisher :=
    { name, settings, outlet, payload
      stamper := .fresh
      phase := .delaying
      published := 0
      delayTimer := some delayTimer
      publishTimer := none }
  return (publisher, q)

/-- What is asked of a publisher besides its settings. -/
structure Options where
  depth : Nat
  retry : RetryPolicy

/-- Loads the settings and starts a publisher; a failure asks for shutdown. -/
def create (w : World m) (name topic : String) (source : Source m) (options : Options)
    (book : SubjectBook) (q : TimerQueue) (fuel : Nat) :
    m (Except Halt (Publisher × TimerQueue)) := do
  let result ← match ← Settings.load w source options.retry name fuel with
    | none => pure (.error .unfinished)
    | some (.error e) => pure (.error (.failed e))
    | some (.ok settings) => (start w name topic settings options.depth book q).run
  if let .error (.failed e) := result then
    w.note ⟨.error, .publisher, "failed to start publisher",
      [("publisher", .text name), ("error", .words e.message)]⟩
    w.requestShutdown
  return result

/-- The start delay is over: the repeating timer takes the place of the single one. -/
def delayElapsed (w : World m) (p : Publisher) (q : TimerQueue) : m (Publisher × TimerQueue) := do
  if p.phase ≠ .delaying then return (p, q)
  let q := cancelTimer p.delayTimer q
  let (handle, q) := q.scheduleEvery (← w.now) p.settings.period
  w.note ⟨.info, .publisher, "delay finished",
    [("publisher", .words p.name), ("period_ms", .number (p.settings.period / Time.nanosPerMilli))]⟩
  return ({ p with delayTimer := none, publishTimer := some handle, phase := .publishing }, q)

/-- Ends publishing and asks for shutdown; a second time nothing happens. -/
def terminate (w : World m) (p : Publisher) (q : TimerQueue) : m (Publisher × TimerQueue) := do
  if p.phase = .terminated then return (p, q)
  let q := cancelTimer p.publishTimer (cancelTimer p.delayTimer q)
  w.note ⟨.info, .publisher, "publisher terminated",
    [("publisher", .words p.name), ("count", .number p.published.toNat)]⟩
  w.requestShutdown
  return ({ p with delayTimer := none, publishTimer := none, phase := .terminated }, q)

/-- Counts and reports what became of an image. -/
def account (w : World m) (p : Publisher) (result : Except TransportError Unit)
    (seconds : Float) : m Unit := do
  let counted := [("publisher", .words p.name), ("count", FieldValue.number p.published.toNat)]
  match result with
  | .ok () =>
    w.count (·.update p.name (·.recordPublish p.payload.size seconds))
    w.note ⟨.debug, .publisher, "published image", counted⟩
  | .error e =>
    w.count (·.update p.name Series.recordError)
    w.note ⟨.warn, .publisher, "publish failed", counted ++ [("error", .words e.message)]⟩

/-- Sends one image, and ends once as many were sent as asked for. -/
def tick (w : World m) (p : Publisher) (q : TimerQueue) : m (Publisher × TimerQueue) := do
  if p.phase ≠ .publishing then return (p, q)
  let (stamp, stamper) := p.stamper.stamp (← w.reading)
  let image := Image.square stamp p.settings.dimension p.payload
  let (result, seconds) ← w.publish p.outlet.subject image.data image.headers
  let p := { p with stamper, published := p.published + 1 }
  account w p result seconds
  if p.settings.maxCount ≤ p.published then terminate w p q else return (p, q)

/-- What a publisher does when a timer fires. -/
def onTimer (w : World m) : Dispatch.OnTimer m Publisher := fun timer p q => do
  if p.phase = .delaying ∧ p.delayTimer = some timer then delayElapsed w p q
  else if p.phase = .publishing ∧ p.publishTimer = some timer then tick w p q
  else
    w.note ⟨.debug, .publisher, "ignoring timer",
      [("publisher", .words p.name), ("timer", .words (handleText timer)),
        ("state", .words p.phase.name)]⟩
    return (p, q)

end Publisher

end PacedImages
