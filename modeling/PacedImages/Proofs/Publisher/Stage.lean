import PacedImages.Proofs.Image.Stamp
import PacedImages.Proofs.Messaging.Delivery
import PacedImages.Proofs.Publisher.OnBus

/-!
# A publisher and its readers

A stage is a publisher on a bench whose bus others use as well: timers, calls and the passing of
time come in any order. To the bus such a run is a session in which the publisher publishes its
images, one for each reading of the calendar that its ticks take.
-/

namespace PacedImages

structure Stage where
  bench : Bench Scene
  publisher : Publisher
  queue : TimerQueue
  subscriptions : List (Option Subscription)

inductive StageEvent where
  /-- The publisher is handed a timer. -/
  | timer (handle : Handle)
  /-- Somebody else calls the bus or a subscription. -/
  | call (call : BusCall)
  /-- Time passes, and the queue of timers changes. -/
  | elsewhere (clock : Instant) (queue : TimerQueue)

/-- A call of somebody else who neither publishes on the subject nor takes the bus away. -/
def BusCall.leaves (subject : String) : BusCall → Bool
  | .publish other _ _ => other != subject
  | .close => false
  | .advertise .. | .subscribe _ | .unsubscribe _ | .next _ => true

namespace Stage

/-- What the bus and its readers are on a stage. -/
def session (x : Stage) : Session := ⟨x.bench.outside.bus, x.subscriptions⟩

def withSession (x : Stage) (s : Session) : Stage :=
  { x with
    bench := { x.bench with outside := { x.bench.outside with bus := s.bus } }
    subscriptions := s.subscriptions }

def afterTimer (x : Stage) (handle : Handle) : Stage :=
  let ((publisher, queue), bench) :=
    Publisher.onTimer Scene.world handle x.publisher x.queue x.bench
  { x with bench, publisher, queue }

/-- What an event lets subscriptions find, and the stage after it. There is none for a call that
cannot be made, and none for a tick that needs a stamp past the end of the calendar, which stops the
program. -/
def step (x : Stage) : StageEvent → Option (List (Nat × Reception) × Stage)
  | .timer handle =>
    if (x.afterTimer handle).publisher.stamper.last.all
        fun t => Stamp.isRepresentable t.seconds t.nanos then
      some ([], x.afterTimer handle)
    else none
  | .call call =>
    if call.leaves x.publisher.outlet.subject then
      (x.session.step call).map fun (log, s) => (log, x.withSession s)
    else none
  | .elsewhere clock queue => some ([], { x with bench := { x.bench with clock }, queue })

/-- What events let subscriptions find, one after the other. -/
def run : Stage → List StageEvent → Option (List (Nat × Reception) × Stage)
  | x, [] => some ([], x)
  | x, event :: rest => do
    let (log, x) ← x.step event
    let (later, x) ← x.run rest
    return (log ++ later, x)

end Stage

namespace Publisher

/-- The images that a publisher sends at readings of the calendar. -/
def images (p : Publisher) (readings : List Stamp) : List Image :=
  (p.stamper.stamps readings).map fun t => .square t p.settings.dimension p.payload

theorem images_stamps (p : Publisher) (readings : List Stamp) :
    (p.images readings).map (·.stamp) = p.stamper.stamps readings := by
  rw [images, List.map_map]
  exact List.map_id _

theorem length_images (p : Publisher) (readings : List Stamp) :
    (p.images readings).length = readings.length := by
  rw [images, List.length_map, Stamper.length_stamps]

/-- How far a publisher is: it ends with the last image that it was to send. -/
inductive Progress (p : Publisher) : Prop where
  | delaying (phase : p.phase = .delaying) (published : p.published.toNat = 0)
      (some : 0 < p.settings.maxCount.toNat)
  | publishing (phase : p.phase = .publishing)
      (published : p.published.toNat < p.settings.maxCount.toNat)
  | terminated (phase : p.phase = .terminated)
      (published : p.published.toNat = p.settings.maxCount.toNat)

/-- Between `p` and `p'` the calendar was read so often, each time for an image. -/
structure Sent (p : Publisher) (readings : List Stamp) (p' : Publisher) : Prop
    extends SameTask p p' where
  published : p'.published.toNat = p.published.toNat + readings.length
  stamper : p'.stamper = p.stamper.afterAll readings
  inCalendar : ∀ t ∈ p.stamper.stamps readings, t.InCalendar

end Publisher

namespace Publisher

variable {p p' p'' : Publisher} {readings later : List Stamp}

theorem Sent.none (p : Publisher) : Sent p [] p where
  toSameTask := .refl p
  published := rfl
  stamper := rfl
  inCalendar := fun t ht => by cases ht

theorem Sent.trans (h : Sent p readings p') (h' : Sent p' later p'') :
    Sent p (readings ++ later) p'' where
  toSameTask := h.toSameTask.trans h'.toSameTask
  published := by
    rw [h'.published, h.published, List.length_append]
    omega
  stamper := by rw [h'.stamper, h.stamper, Stamper.afterAll_append]
  inCalendar := by
    intro t ht
    rw [Stamper.stamps_append, ← h.stamper] at ht
    rcases List.mem_append.mp ht with ht | ht
    · exact h.inCalendar t ht
    · exact h'.inCalendar t ht

/-- Before the first image no reading was taken. -/
theorem Sent.readings_nil (h : Sent p readings p') (hnone : p'.published = 0) : readings = [] := by
  have hcount := h.published
  rw [hnone, UInt32.toNat_zero] at hcount
  exact List.length_eq_zero_iff.mp (by omega)

theorem Progress.published_of_terminated (progress : p.Progress) (h : p.phase = .terminated) :
    p.published.toNat = p.settings.maxCount.toNat := by
  cases progress with
  | delaying phase _ _ => exact absurd (phase.symm.trans h) (by decide)
  | publishing phase _ => exact absurd (phase.symm.trans h) (by decide)
  | terminated _ published => exact published

theorem images_append (h : Sent p readings p') (later : List Stamp) :
    p.images (readings ++ later) = p.images readings ++ p'.images later := by
  rw [images, Stamper.stamps_append, List.map_append, ← h.stamper]
  simp only [images, h.settings, h.payload]

/-- The start delay ends before the first image. -/
theorem Elapsed.progress (elapsed : Elapsed p p') (progress : p.Progress) : p'.Progress := by
  cases progress with
  | delaying phase published some =>
    exact .publishing elapsed.phase (by rw [elapsed.published, elapsed.settings]; omega)
  | publishing phase published => exact absurd (phase.symm.trans elapsed.before) (by decide)
  | terminated phase published => exact absurd (phase.symm.trans elapsed.before) (by decide)

theorem Elapsed.sent (elapsed : Elapsed p p') : Sent p [] p' where
  toSameTask := elapsed.toSameTask
  published := by rw [elapsed.published]; rfl
  stamper := elapsed.stamper
  inCalendar := fun t ht => by cases ht

/-- The count does not overflow before it reaches the number asked for. -/
theorem Ticked.published_toNat {reading : Stamp} (ticked : Ticked p p' reading)
    (progress : p.Progress) :
    p.published.toNat < p.settings.maxCount.toNat ∧
      p'.published.toNat = p.published.toNat + 1 := by
  cases progress with
  | delaying phase published some => exact absurd (phase.symm.trans ticked.before) (by decide)
  | terminated phase published => exact absurd (phase.symm.trans ticked.before) (by decide)
  | publishing phase published =>
    have hlt := p.settings.maxCount.toNat_lt
    rw [ticked.published, UInt32.toNat_add, UInt32.toNat_one]
    omega

theorem Ticked.progress {reading : Stamp} (ticked : Ticked p p' reading)
    (progress : p.Progress) : p'.Progress := by
  obtain ⟨hlt, hcount⟩ := ticked.published_toNat progress
  have hphase := ticked.phase
  rw [← ticked.published] at hphase
  by_cases hlast : p.settings.maxCount ≤ p'.published
  · rw [if_pos hlast] at hphase
    rw [UInt32.le_iff_toNat_le] at hlast
    exact .terminated hphase (by rw [ticked.settings]; omega)
  · rw [if_neg hlast] at hphase
    rw [UInt32.le_iff_toNat_le] at hlast
    exact .publishing hphase (by rw [ticked.settings]; omega)

theorem Ticked.sent {reading : Stamp} (ticked : Ticked p p' reading) (progress : p.Progress)
    (hcalendar : (p.stamper.stamp reading).1.InCalendar) : Sent p [reading] p' where
  toSameTask := ticked.toSameTask
  published := (ticked.published_toNat progress).2
  stamper := ticked.stamper
  inCalendar := by
    intro t ht
    rw [List.mem_singleton.mp ht]
    exact hcalendar

end Publisher

namespace Stage

variable {x x' : Stage} {event : StageEvent} {log : List (Nat × Reception)}

/-- The publisher is on a bus, and the calendar shows no leap seconds. -/
structure Running (x : Stage) : Prop where
  script : x.bench.outside.script = none
  opened : x.bench.outside.bus.closed = false
  calendar : ∀ k, (x.bench.outside.calendar k).IsPlain
  progress : x.publisher.Progress
  stamper : x.publisher.stamper.IsPlain

/-- What calls make of a stage, and what they publish for its publisher. -/
structure Projects (x : Stage) (log : List (Nat × Reception)) (x' : Stage) (calls : List BusCall)
    (readings : List Stamp) : Prop where
  run : x.session.run calls = some (log, x'.session)
  plain : ∀ reading ∈ readings, reading.IsPlain
  sent : Publisher.Sent x.publisher readings x'.publisher
  content : calls.filterMap (BusCall.sentOn? x.publisher.outlet.subject) =
    (x.publisher.images readings).map fun i => (i.data, i.headers)

theorem Projects.nothing (hsession : x'.session = x.session)
    (hsent : Publisher.Sent x.publisher [] x'.publisher) : Projects x [] x' [] [] where
  run := by rw [hsession]; rfl
  plain := fun reading hreading => by cases hreading
  sent := hsent
  content := rfl

theorem step_timer {handle : Handle} (h : x.step (.timer handle) = some (log, x')) :
    log = [] ∧ x' = x.afterTimer handle ∧ ∀ t ∈ x'.publisher.stamper.last, t.InCalendar := by
  simp only [Stage.step, Option.ite_none_right_eq_some] at h
  obtain ⟨hcalendar, heq⟩ := h
  obtain ⟨hlog, rfl⟩ := Prod.mk.inj (Option.some.inj heq)
  refine ⟨hlog.symm, rfl, ?_⟩
  intro t ht
  rw [ht] at hcalendar
  exact hcalendar

theorem step_call {call : BusCall} (h : x.step (.call call) = some (log, x')) :
    call.leaves x.publisher.outlet.subject = true ∧
      ∃ s, x.session.step call = some (log, s) ∧ x' = x.withSession s := by
  simp only [Stage.step, Option.ite_none_right_eq_some, Option.map_eq_some_iff] at h
  obtain ⟨hleaves, ⟨log', s⟩, hstep, heq⟩ := h
  obtain ⟨rfl, rfl⟩ := Prod.mk.inj heq
  exact ⟨hleaves, s, hstep, rfl⟩

theorem sentOn?_of_leaves {subject : String} {call : BusCall} (h : call.leaves subject = true) :
    call.sentOn? subject = none := by
  cases call with
  | publish other payload headers =>
    have hne : other ≠ subject := by simpa [BusCall.leaves] using h
    exact if_neg hne
  | advertise other depth => rfl
  | subscribe other => rfl
  | unsubscribe number => rfl
  | next number => rfl
  | close => rfl

theorem session_of_scene (hscene : x'.bench.outside = x.bench.outside)
    (hsubscriptions : x'.subscriptions = x.subscriptions) : x'.session = x.session := by
  rw [session, session, hscene, hsubscriptions]

/-- Of what a timer changes, the bus and its readers see the scene alone. -/
theorem Running.unchanged (running : x.Running) (hscene : x'.bench.outside = x.bench.outside)
    (progress : x'.publisher.Progress) (hstamper : x'.publisher.stamper = x.publisher.stamper) :
    x'.Running where
  script := by rw [hscene]; exact running.script
  opened := by rw [hscene]; exact running.opened
  calendar := by rw [hscene]; exact running.calendar
  progress := progress
  stamper := by rw [hstamper]; exact running.stamper

/-- A tick publishes one image. -/
theorem tick_projects (running : x.Running)
    (ticked : Publisher.Ticked x.publisher x'.publisher
      (x.bench.outside.calendar x.bench.outside.readings))
    (hscene : x'.bench.outside = { x.bench.outside with
      readings := x.bench.outside.readings + 1
      bus := x.bench.outside.bus.publish x.publisher.outlet.subject
        (x.publisher.image (x.bench.outside.calendar x.bench.outside.readings)).data
        (x.publisher.image (x.bench.outside.calendar x.bench.outside.readings)).headers })
    (hsubscriptions : x'.subscriptions = x.subscriptions)
    (hcalendar : ∀ t ∈ x'.publisher.stamper.last, t.InCalendar) :
    x'.Running ∧ ∃ calls readings, Projects x [] x' calls readings := by
  have hplain := running.calendar x.bench.outside.readings
  have hlast : x'.publisher.stamper.last =
      some (x.publisher.stamper.stamp (x.bench.outside.calendar x.bench.outside.readings)).1 := by
    rw [ticked.stamper, Stamper.stamp_last]
  constructor
  · refine ⟨?_, ?_, ?_, ticked.progress running.progress, ?_⟩
    · rw [hscene]
      exact running.script
    · rw [hscene]
      exact running.opened
    · rw [hscene]
      exact running.calendar
    · intro t ht
      rw [hlast] at ht
      cases ht
      exact Stamper.stamp_isPlain running.stamper hplain
  · let i := x.publisher.image (x.bench.outside.calendar x.bench.outside.readings)
    refine ⟨[.publish x.publisher.outlet.subject i.data i.headers],
      [x.bench.outside.calendar x.bench.outside.readings], ?_, ?_, ?_, ?_⟩
    · have hopen : x.session.bus.closed = false := running.opened
      have hsession : x'.session = ⟨x.session.bus.publish x.publisher.outlet.subject i.data
          i.headers, x.session.subscriptions⟩ := by
        rw [session, hscene, hsubscriptions]
        rfl
      simp [Session.run, Session.step, hopen, hsession]
    · intro reading hreading
      rw [List.mem_singleton.mp hreading]
      exact hplain
    · exact ticked.sent running.progress (hcalendar _ hlast)
    · simp only [List.filterMap_cons, BusCall.sentOn?, if_true, List.filterMap_nil]
      rfl

theorem step_projects (running : x.Running) (h : x.step event = some (log, x')) :
    x'.Running ∧ ∃ calls readings, Projects x log x' calls readings := by
  cases event with
  | timer handle =>
    obtain ⟨rfl, rfl, hcalendar⟩ := step_timer h
    rcases Publisher.onTimer_outside x.publisher x.queue handle running.script with
      ⟨hsame, hscene⟩ | ⟨elapsed, hscene⟩ | ⟨ticked, hscene⟩
    · have hpublisher : (x.afterTimer handle).publisher = x.publisher := hsame
      refine ⟨running.unchanged hscene ?_ (congrArg _ hpublisher), [], [], .nothing ?_ ?_⟩
      · rw [hpublisher]
        exact running.progress
      · exact session_of_scene hscene rfl
      · rw [hpublisher]
        exact .none _
    · refine ⟨running.unchanged hscene (elapsed.progress running.progress) elapsed.stamper,
        [], [], .nothing ?_ elapsed.sent⟩
      exact session_of_scene hscene rfl
    · exact tick_projects running ticked hscene rfl hcalendar
  | call call =>
    obtain ⟨hleaves, s, hstep, rfl⟩ := step_call h
    have hopen : call ≠ .close := by
      rintro rfl
      cases hleaves
    refine ⟨⟨running.script, ?_, running.calendar, running.progress, running.stamper⟩,
      [call], [], ?_⟩
    · exact (Session.closed_step hstep hopen).trans running.opened
    · refine ⟨Session.run_single hstep, by simp, .none _, ?_⟩
      simp [sentOn?_of_leaves hleaves]
      rfl
  | elsewhere clock queue =>
    obtain ⟨rfl, rfl⟩ := Prod.mk.inj (Option.some.inj h)
    refine ⟨⟨running.script, running.opened, running.calendar, running.progress,
      running.stamper⟩, [], [], .nothing rfl (.none _)⟩

theorem Projects.trans {x'' : Stage} {later : List (Nat × Reception)}
    {calls calls' : List BusCall} {readings readings' : List Stamp}
    (h : Projects x log x' calls readings) (h' : Projects x' later x'' calls' readings') :
    Projects x (log ++ later) x'' (calls ++ calls') (readings ++ readings') where
  run := Session.run_join h.run h'.run
  plain := by
    intro reading hreading
    rcases List.mem_append.mp hreading with hearlier | hlater
    · exact h.plain reading hearlier
    · exact h'.plain reading hlater
  sent := h.sent.trans h'.sent
  content := by
    rw [List.filterMap_append, h.content, ← h.sent.outlet, h'.content,
      Publisher.images_append h.sent, List.map_append]

theorem run_cons {events : List StageEvent} (h : x.run (event :: events) = some (log, x')) :
    ∃ log₁ x₁ log₂, x.step event = some (log₁, x₁) ∧ x₁.run events = some (log₂, x') ∧
      log = log₁ ++ log₂ := by
  simp only [Stage.run, Option.bind_eq_bind, Option.bind_eq_some_iff] at h
  obtain ⟨⟨log₁, x₁⟩, hstep, ⟨log₂, x₂⟩, hrun, heq⟩ := h
  obtain ⟨rfl, rfl⟩ := Prod.mk.inj (Option.some.inj heq)
  exact ⟨log₁, x₁, log₂, hstep, hrun, rfl⟩

/-- A run on a stage is a session, in which the publisher publishes its images. -/
theorem run_projects {events : List StageEvent} (running : x.Running)
    (h : x.run events = some (log, x')) :
    x'.Running ∧ ∃ calls readings, Projects x log x' calls readings := by
  induction events generalizing x log with
  | nil =>
    obtain ⟨rfl, rfl⟩ := Prod.mk.inj (Option.some.inj h)
    exact ⟨running, [], [], .nothing rfl (.none _)⟩
  | cons event rest ih =>
    obtain ⟨log₁, x₁, log₂, hstep, hrest, rfl⟩ := run_cons h
    obtain ⟨running₁, calls₁, readings₁, projects₁⟩ := step_projects running hstep
    obtain ⟨running₂, calls₂, readings₂, projects₂⟩ := ih running₁ hrest
    exact ⟨running₂, calls₁ ++ calls₂, readings₁ ++ readings₂, projects₁.trans projects₂⟩

end Stage

end PacedImages
