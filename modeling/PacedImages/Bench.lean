import PacedImages.World

/-!
# A simulated world

A bench holds the state of a world: the clock, what will happen from outside and when, whether
shutdown was requested, the counts and the reports so far, and the state of everything else. All
share one thread, so things happen only when the program gives way, which it does to sleep: what was
set off since begins to wait then, and what is due by then happens. While the program sleeps the
clock goes from one due time to the next, by whole milliseconds. What is due in the millisecond of
waking happens when the program gives way again.
-/

namespace PacedImages

/-- Something that happens from outside. -/
structure Happening (ω : Type) where
  act : ω → ω
  shutdown : Bool

structure Bench (ω : Type) where
  clock : Instant
  /-- What was set off since the program last gave way, and how long each waits once it begins. -/
  unbegun : List (Duration × Happening ω)
  /-- What will happen, with the millisecond in which it is due, earliest first. -/
  plan : List (Nat × Happening ω)
  shutdown : Bool
  metrics : Metrics
  /-- The reports so far, the latest first. -/
  log : List LogEntry
  outside : ω

/-- How the rest of the world behaves, by its state. -/
structure Outside (ω : Type) where
  reading : ω → Stamp × ω
  reserve : Nat → ω → Bool × ω
  drawKey : ω → Keystream.Key × ω
  advertise : String → Nat → ω → Except AdvertiseFault Unit × ω
  /-- What becomes of a message, and how long the transport takes with it. -/
  publish : String → ByteArray → Headers → ω → Except TransportError Unit × Duration × ω

namespace Bench

variable {ω : Type}

def fresh (outside : ω) : Bench ω := ⟨0, [], [], false, .empty, [], outside⟩

/-- Sets something off that happens so long after it begins. -/
def setOff (delay : Duration) (h : Happening ω) (b : Bench ω) : Bench ω :=
  { b with unbegun := b.unbegun ++ [(delay, h)] }

/-- Enters a happening behind those that are due no later. -/
def enter (due : Nat) (h : Happening ω) : List (Nat × Happening ω) → List (Nat × Happening ω)
  | [] => [(due, h)]
  | other :: rest => if due < other.1 then (due, h) :: other :: rest else other :: enter due h rest

/-- Whatever was set off begins. -/
def beginAll (b : Bench ω) : Bench ω :=
  { b with
    unbegun := []
    plan := b.unbegun.foldl
      (fun plan (delay, h) => enter (Time.begun (b.clock + delay)) h plan) b.plan }

/-- The bench after a happening. -/
def suffer (h : Happening ω) (b : Bench ω) : Bench ω :=
  { b with shutdown := b.shutdown || h.shutdown, outside := h.act b.outside }

/-- The clock moved on to a millisecond. -/
def moveTo (milli : Nat) (b : Bench ω) : Bench ω :=
  { b with clock := Time.wake b.clock milli }

/-- What is due happens. -/
def happen (b : Bench ω) : Bench ω :=
  let (due, plan) := b.plan.span fun entry => entry.1 ≤ Time.passed b.clock
  due.foldl (fun b entry => suffer entry.2 b) { b with plan }

/-- The program gives way to the others for a moment. -/
def giveWay (b : Bench ω) : Bench ω := b.beginAll.happen

/-- The clock jumps ahead, and the program gives way for a moment. What falls due by the jump does
not happen yet. -/
def jump (d : Duration) (b : Bench ω) : Bench ω :=
  let b := b.happen
  beginAll { b with clock := b.clock + d }

/-- The bench in a millisecond, what is planned before it having happened. -/
def passPlan (milli : Nat) : List (Nat × Happening ω) → Bench ω → Bench ω
  | [], b => { b.moveTo milli with plan := [] }
  | (due, h) :: rest, b =>
    if due < milli then passPlan milli rest (suffer h (b.moveTo due))
    else { b.moveTo milli with plan := (due, h) :: rest }

/-- As `passPlan`, but no further than to the millisecond in which shutdown is requested. -/
def passPlanOrShutdown (milli : Nat) : List (Nat × Happening ω) → Bench ω → Bench ω
  | [], b => { (if b.shutdown then b else b.moveTo milli) with plan := [] }
  | (due, h) :: rest, b =>
    if due < milli && !(b.shutdown && Time.passed b.clock < due) then
      passPlanOrShutdown milli rest (suffer h (b.moveTo due))
    else { (if b.shutdown then b else b.moveTo milli) with plan := (due, h) :: rest }

/-- Sleeps to an instant, not at all if that is past. -/
def sleepUntil (t : Instant) (b : Bench ω) : Bench ω :=
  if Time.begun t ≤ Time.passed b.clock then b
  else
    let b := b.giveWay
    passPlan (Time.begun t) b.plan b

/-- Sleeps to an instant or to a request for shutdown. -/
def sleepOrShutdown (t : Instant) (b : Bench ω) : Bench ω :=
  if b.shutdown || Time.begun t ≤ Time.passed b.clock then b
  else
    let b := b.giveWay
    passPlanOrShutdown (Time.begun t) b.plan b

/-- The message handed over, and the time passed that it took. -/
def publish (o : Outside ω) (subject : String) (payload : ByteArray) (headers : Headers)
    (b : Bench ω) : (Except TransportError Unit × Float) × Bench ω :=
  let (result, took, outside) := o.publish subject payload headers b.outside
  let b := { b with outside }
  let b := if took = 0 then b else b.sleepUntil (b.clock + took)
  ((result, took.toFloat / 1000000000.0), b)

/-- The actions of a simulated world. -/
def world (o : Outside ω) : World (StateM (Bench ω)) where
  now := fun b => (b.clock, b)
  sleepUntil t := fun b => ((), b.sleepUntil t)
  sleepOrShutdown t := fun b => let b := b.sleepOrShutdown t; (b.shutdown, b)
  isShutdown := fun b => (b.shutdown, b)
  requestShutdown := fun b => ((), { b with shutdown := true })
  reading := fun b => let (stamp, outside) := o.reading b.outside; (stamp, { b with outside })
  reserve size := fun b =>
    let (isGranted, outside) := o.reserve size b.outside
    (isGranted, { b with outside })
  drawKey := fun b => let (key, outside) := o.drawKey b.outside; (key, { b with outside })
  advertise subject depth := fun b =>
    let (result, outside) := o.advertise subject depth b.outside
    (result, { b with outside })
  publish subject payload headers := publish o subject payload headers
  count change := fun b => ((), { b with metrics := change b.metrics })
  note entry := fun b => ((), { b with log := entry :: b.log })

end Bench

end PacedImages
