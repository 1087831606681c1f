import Mathlib.Data.List.TakeDrop
import PacedImages.Proofs.VirtualClock
import PacedImages.Scene

/-!
# The clock of a bench

A bench whose surroundings take no time runs under a virtual clock, exact on whole milliseconds. The
request for shutdown stands in its plan; a record next to the bench says when messages were handed
over.
-/

namespace PacedImages

/-! ## Worlds with a record -/

/-- A state with the instants at which messages were handed to the transport. -/
structure Timed (β : Type) where
  state : β
  sent : List Instant

/-- An action that leaves the record as it is. -/
def Timed.carry {α β : Type} (act : StateM β α) : StateM (Timed β) α := fun x =>
  let (a, state) := act x.state
  (a, { x with state })

/-- The world with a record of what is handed to its transport. -/
def World.timed {β : Type} (w : World (StateM β)) (clock : β → Instant) :
    World (StateM (Timed β)) where
  now := Timed.carry w.now
  sleepUntil t := Timed.carry (w.sleepUntil t)
  sleepOrShutdown t := Timed.carry (w.sleepOrShutdown t)
  isShutdown := Timed.carry w.isShutdown
  requestShutdown := Timed.carry w.requestShutdown
  reading := Timed.carry w.reading
  reserve size := Timed.carry (w.reserve size)
  drawKey := Timed.carry w.drawKey
  advertise subject depth := Timed.carry (w.advertise subject depth)
  publish subject payload headers := fun x =>
    let (result, state) := w.publish subject payload headers x.state
    (result, ⟨state, x.sent ++ [clock x.state]⟩)
  count change := Timed.carry (w.count change)
  note entry := Timed.carry (w.note entry)

/-! ## Whole milliseconds -/

/-- Whether an instant is one of whole milliseconds. -/
def Time.IsWhole (t : Instant) : Prop := ∃ n, t = Time.millis n

theorem Time.passed_millis (n : Nat) : Time.passed (Time.millis n) = n := by
  unfold Time.passed Time.millis Time.nanosPerMilli
  omega

theorem Time.begun_millis (n : Nat) : Time.begun (Time.millis n) = n := by
  unfold Time.begun Time.millis Time.nanosPerMilli
  omega

/-- On whole milliseconds a sleep ends at its deadline, or at once if that is past. -/
theorem Time.wake_millis (c d : Nat) : Time.wake (Time.millis c) d = Time.millis (max c d) := by
  rw [Time.wake, Time.passed_millis]
  show c * 1000000 + (d - c) * 1000000 = max c d * 1000000
  omega

theorem Time.millis_lt {m n : Nat} : Time.millis m < Time.millis n ↔ m < n := by
  show m * 1000000 < n * 1000000 ↔ m < n
  omega

theorem Time.millis_le {m n : Nat} : Time.millis m ≤ Time.millis n ↔ m ≤ n := by
  show m * 1000000 ≤ n * 1000000 ↔ m ≤ n
  omega

theorem Time.millis_inj {m n : Nat} : Time.millis m = Time.millis n ↔ m = n := by
  show m * 1000000 = n * 1000000 ↔ m = n
  omega

namespace Bench

variable {ω : Type} {b : Bench ω}

/-- A plan with nothing but the request for shutdown, if there is one. -/
def requestOnly (external : Option Instant) : List (Nat × Happening ω) :=
  external.toList.map fun s => (Time.passed s, ⟨id, true⟩)

theorem beginAll_eq (hunbegun : b.unbegun = []) : b.beginAll = b := by
  obtain ⟨clock, unbegun, plan, shutdown, metrics, log, outside⟩ := b
  simp only at hunbegun
  subst hunbegun
  rfl

theorem happen_early {due : Nat} {h : Happening ω} (hplan : b.plan = [(due, h)])
    (hearly : ¬ due ≤ Time.passed b.clock) : b.happen = b := by
  obtain ⟨clock, unbegun, plan, shutdown, metrics, log, outside⟩ := b
  simp only at hplan hearly
  subst hplan
  simp [happen, List.span_eq_takeWhile_dropWhile, hearly]

/-- Nothing happens while the program gives way before the request. -/
theorem giveWay_eq {external : Option Instant} {c : Nat} (hclock : b.clock = Time.millis c)
    (hwhole : ∀ s ∈ external, Time.IsWhole s) (hunbegun : b.unbegun = [])
    (hplan : b.plan = requestOnly external)
    (hbefore : precedesRequest external b.clock = true) : b.giveWay = b := by
  rw [giveWay, beginAll_eq hunbegun]
  cases external with
  | none =>
    obtain ⟨clock, unbegun, plan, shutdown, metrics, log, outside⟩ := b
    simp only [requestOnly, Option.toList_none, List.map_nil] at hplan
    subst hplan
    rfl
  | some s =>
    obtain ⟨n, rfl⟩ := hwhole s rfl
    refine happen_early hplan ?_
    rw [hclock, Time.passed_millis, Time.passed_millis]
    rw [hclock, precedesRequest_some, Time.millis_lt] at hbefore
    exact Nat.not_le_of_lt hbefore

theorem moveTo_millis {c d : Nat} (hclock : b.clock = Time.millis c) (hle : c ≤ d) :
    b.moveTo d = { b with clock := Time.millis d } := by
  rw [moveTo, hclock, Time.wake_millis, Nat.max_eq_right hle]

/-- A sleep to whole milliseconds before the request. -/
theorem sleepOrShutdown_before {external : Option Instant} {c d : Nat}
    (hclock : b.clock = Time.millis c) (hle : c ≤ d)
    (hwhole : ∀ s ∈ external, Time.IsWhole s) (hrunning : b.shutdown = false)
    (hunbegun : b.unbegun = []) (hplan : b.plan = requestOnly external)
    (hnow : precedesRequest external b.clock = true)
    (hthen : precedesRequest external (Time.millis d) = true) :
    b.sleepOrShutdown (Time.millis d) = { b with clock := Time.millis d } := by
  have hquiet := giveWay_eq hclock hwhole hunbegun hplan hnow
  rw [sleepOrShutdown, Time.begun_millis]
  by_cases hpast : d ≤ Time.passed b.clock
  · have hdc : d ≤ c := by rwa [hclock, Time.passed_millis] at hpast
    obtain rfl := Nat.le_antisymm hle hdc
    simp only [hpast, decide_true, Bool.or_true, if_true]
    rw [← hclock]
  · simp only [hrunning, hpast, decide_false, Bool.or_false, Bool.false_eq_true, if_false]
    rw [hquiet, hplan]
    cases external with
    | none => simp [requestOnly, passPlanOrShutdown, hrunning, moveTo_millis hclock hle] at hplan ⊢
    | some s =>
      obtain ⟨n, rfl⟩ := hwhole s rfl
      have hnd : ¬ n < d := by
        rw [precedesRequest_some, Time.millis_lt] at hthen
        exact Nat.not_lt_of_lt hthen
      simp [requestOnly, passPlanOrShutdown, hrunning, moveTo_millis hclock hle,
        Time.passed_millis, hnd] at hplan ⊢

/-- A sleep that the request cuts short. -/
theorem sleepOrShutdown_cut {c d n : Nat} (hclock : b.clock = Time.millis c) (hcn : c < n)
    (hnd : n < d) (hrunning : b.shutdown = false) (hunbegun : b.unbegun = [])
    (hplan : b.plan = requestOnly (some (Time.millis n))) :
    b.sleepOrShutdown (Time.millis d) =
      { b with clock := Time.millis n, shutdown := true, plan := [] } := by
  have hbefore : precedesRequest (some (Time.millis n)) b.clock = true := by
    rw [hclock, precedesRequest_some, Time.millis_lt]
    exact hcn
  have hquiet := giveWay_eq hclock (by rintro s ⟨⟩; exact ⟨n, rfl⟩) hunbegun hplan hbefore
  have hahead : ¬ d ≤ Time.passed b.clock := by
    rw [hclock, Time.passed_millis]
    exact Nat.not_le_of_lt (Nat.lt_trans hcn hnd)
  rw [sleepOrShutdown, Time.begun_millis, hquiet]
  simp only [hrunning, hahead, decide_false, Bool.or_false, Bool.false_eq_true, if_false, hplan]
  simp [requestOnly, passPlanOrShutdown, suffer, hrunning, hnd, Time.passed_millis,
    moveTo_millis hclock (Nat.le_of_lt hcn)]

end Bench

/-! ## The bench as a virtual clock -/

section

variable {ω : Type} {o : Outside ω} {calm : ω → Prop} {external : Option Instant}

/-- In a calm state nothing outside takes time, and what is done there leaves it calm. -/
structure Outside.Timeless (o : Outside ω) (calm : ω → Prop) : Prop where
  reading {x} : calm x → calm (o.reading x).2
  reserve {x} (size : Nat) : calm x → calm (o.reserve size x).2
  drawKey {x} : calm x → calm (o.drawKey x).2
  advertise {x} (subject : String) (depth : Nat) :
    calm x → calm (o.advertise subject depth x).2
  publish {x} (subject : String) (payload : ByteArray) (headers : Headers) : calm x →
    (o.publish subject payload headers x).2.1 = 0 ∧ calm (o.publish subject payload headers x).2.2

/-- What shows of a bench with a record; up to the request nothing else is planned. -/
structure Bench.Shows (calm : ω → Prop) (external : Option Instant) (x : Timed (Bench ω))
    (v : Moment) : Prop where
  clock : x.state.clock = v.clock
  whole : Time.IsWhole v.clock
  stopped : x.state.shutdown = v.stopped
  sent : x.sent = v.sent
  calm : calm x.state.outside
  waiting : v.stopped = false → x.state.unbegun = [] ∧
    x.state.plan = Bench.requestOnly external ∧ precedesRequest external v.clock = true

theorem Bench.publish_timeless (timeless : o.Timeless calm) {b : Bench ω} (hcalm : calm b.outside)
    (subject : String) (payload : ByteArray) (headers : Headers) :
    (Bench.publish o subject payload headers b).2 =
      { b with outside := (o.publish subject payload headers b.outside).2.2 } := by
  have htook := (timeless.publish subject payload headers hcalm).1
  simp only [Bench.publish, htook, if_true]

theorem Bench.virtualClock (timeless : o.Timeless calm) (hwhole : ∀ s ∈ external, Time.IsWhole s) :
    VirtualClock ((Bench.world o).timed (·.clock)) Time.IsWhole external
      (Bench.Shows calm external) where
  now shows := ⟨shows.clock, shows⟩
  isShutdown shows := ⟨shows.stopped, shows⟩
  requestShutdown shows := { shows with stopped := rfl, waiting := fun h => by cases h }
  reading shows := { shows with calm := timeless.reading shows.calm }
  reserve size shows := { shows with calm := timeless.reserve size shows.calm }
  drawKey shows := { shows with calm := timeless.drawKey shows.calm }
  advertise subject depth shows :=
    { shows with calm := timeless.advertise subject depth shows.calm }
  count _ shows := { shows with }
  note _ shows := { shows with }
  publish {x v} subject payload headers shows := by
    have hstate := Bench.publish_timeless timeless shows.calm subject payload headers
    have hcalm := (timeless.publish subject payload headers shows.calm).2
    show Bench.Shows calm external ⟨(Bench.publish o subject payload headers x.state).2,
      x.sent ++ [x.state.clock]⟩ _
    rw [hstate]
    exact { shows with calm := hcalm, sent := by rw [shows.sent, shows.clock] }
  sleep {x v} t shows hrunning hle hexact hbefore := by
    obtain ⟨c, hc⟩ := shows.whole
    obtain ⟨d, rfl⟩ := hexact
    obtain ⟨hunbegun, hplan, hnow⟩ := shows.waiting hrunning
    rw [hc] at hle
    have hslept := Bench.sleepOrShutdown_before (shows.clock.trans hc)
      (Time.millis_le.mp hle) hwhole (shows.stopped.trans hrunning) hunbegun hplan
      (shows.clock ▸ hnow) hbefore
    show (x.state.sleepOrShutdown (Time.millis d)).shutdown = false ∧
      Bench.Shows calm external ⟨x.state.sleepOrShutdown (Time.millis d), x.sent⟩ _
    rw [hslept]
    refine ⟨shows.stopped.trans hrunning, ?_⟩
    exact { shows with
      clock := rfl
      whole := ⟨d, rfl⟩
      waiting := fun _ => ⟨hunbegun, hplan, hbefore⟩ }
  cut {x v} s t shows hrunning hs hlt hst hexact := by
    obtain ⟨c, hc⟩ := shows.whole
    obtain ⟨d, rfl⟩ := hexact
    obtain ⟨n, rfl⟩ := hwhole s hs
    obtain ⟨hunbegun, hplan, _⟩ := shows.waiting hrunning
    rw [hc] at hlt
    have hslept := Bench.sleepOrShutdown_cut (shows.clock.trans hc)
      (Time.millis_lt.mp hlt) (Time.millis_lt.mp hst) (shows.stopped.trans hrunning)
      hunbegun (hs ▸ hplan)
    show (x.state.sleepOrShutdown (Time.millis d)).shutdown = true ∧
      Bench.Shows calm external ⟨x.state.sleepOrShutdown (Time.millis d), x.sent⟩ _
    rw [hslept]
    refine ⟨rfl, ?_⟩
    exact { shows with
      clock := rfl
      whole := ⟨n, rfl⟩
      stopped := rfl
      waiting := fun h => by cases h }

end

/-- A scene whose transport takes no time with any message. -/
def Scene.IsPrompt (s : Scene) : Prop :=
  ∀ script ∈ s.script, ∀ took, Delivery.accepted took ∈ script.deliveries → took = 0

theorem Scene.timeless : Scene.outside.Timeless Scene.IsPrompt where
  reading prompt := prompt
  reserve _ prompt := prompt
  drawKey prompt := prompt
  advertise {x} subject depth prompt := by
    show Scene.IsPrompt (Scene.advertise subject depth x).2
    unfold Scene.advertise
    repeat' split
    all_goals exact prompt
  publish {x} subject payload headers prompt := by
    show (Scene.publish subject payload headers x).2.1 = 0 ∧
      Scene.IsPrompt (Scene.publish subject payload headers x).2.2
    unfold Scene.publish
    split
    · exact ⟨rfl, prompt⟩
    · exact ⟨rfl, prompt⟩
    · next refusal took rest hscript =>
      refine ⟨prompt _ hscript took List.mem_cons_self, ?_⟩
      rintro script ⟨⟩ later hlater
      exact prompt _ hscript later (List.mem_cons_of_mem _ hlater)
    · next refusal report rest hscript =>
      refine ⟨rfl, ?_⟩
      rintro script ⟨⟩ later hlater
      exact prompt _ hscript later (List.mem_cons_of_mem _ hlater)

end PacedImages
