import PacedImages.Proofs.Publisher.Steps
import PacedImages.Scene

/-!
# A publisher on a bus

What the timers of a publisher do to a scene with a bus: the end of the start delay leaves all as it
is outside, and a tick reads the calendar once and publishes one image.
-/

namespace PacedImages

namespace Scene

theorem publish_of_bus {s : Scene} (hscript : s.script = none) (subject : String)
    (payload : ByteArray) (headers : Headers) :
    s.publish subject payload headers =
      (.ok (), 0, { s with bus := s.bus.publish subject payload headers }) := by
  simp only [Scene.publish, hscript]

theorem world_publish_of_bus {b : Bench Scene} (hscript : b.outside.script = none)
    (subject : String) (payload : ByteArray) (headers : Headers) :
    (world.publish subject payload headers b).2 =
      { b with outside :=
        { b.outside with bus := b.outside.bus.publish subject payload headers } } := by
  show (Bench.publish outside subject payload headers b).2 = _
  simp only [Bench.publish, outside, publish_of_bus hscript, if_true]

theorem world_advertise_of_bus {b : Bench Scene} (hscript : b.outside.script = none)
    {subject : String} {depth : Nat} (h : (world.advertise subject depth b).1 = .ok ()) :
    ∃ bus, b.outside.bus.advertise? subject depth = some bus ∧
      (world.advertise subject depth b).2 = { b with outside := { b.outside with bus } } := by
  have hworld : world.advertise subject depth b =
      ((Scene.advertise subject depth b.outside).1,
        { b with outside := (Scene.advertise subject depth b.outside).2 }) := rfl
  rw [hworld] at h ⊢
  simp only [Scene.advertise, hscript] at h ⊢
  cases hbus : b.outside.bus.advertise? subject depth with
  | none =>
    rw [hbus] at h
    cases h
  | some bus => exact ⟨bus, rfl, rfl⟩

end Scene

namespace Publisher

variable {p p' : Publisher} {q : TimerQueue} {b : Bench Scene}

/-- The image that a publisher sends at a reading of the calendar. -/
def image (p : Publisher) (reading : Stamp) : Image :=
  .square (p.stamper.stamp reading).1 p.settings.dimension p.payload

/-- What a publisher sends, how often and where never changes. -/
structure SameTask (p p' : Publisher) : Prop where
  settings : p'.settings = p.settings
  payload : p'.payload = p.payload
  outlet : p'.outlet = p.outlet

/-- The start delay of `p` is over in `p'`. -/
structure Elapsed (p p' : Publisher) : Prop extends SameTask p p' where
  before : p.phase = .delaying
  phase : p'.phase = .publishing
  published : p'.published = p.published
  stamper : p'.stamper = p.stamper

/-- After `p` one image was sent in `p'`, at a reading of the calendar. -/
structure Ticked (p p' : Publisher) (reading : Stamp) : Prop extends SameTask p p' where
  before : p.phase = .publishing
  phase : p'.phase =
    if p.settings.maxCount ≤ p.published + 1 then .terminated else .publishing
  published : p'.published = p.published + 1
  stamper : p'.stamper = (p.stamper.stamp reading).2

theorem SameTask.refl (p : Publisher) : SameTask p p := ⟨rfl, rfl, rfl⟩

theorem SameTask.trans {p'' : Publisher} (h : SameTask p p') (h' : SameTask p' p'') :
    SameTask p p'' :=
  ⟨h'.settings.trans h.settings, h'.payload.trans h.payload, h'.outlet.trans h.outlet⟩

theorem account_outside (p : Publisher) (result : Except TransportError Unit) (seconds : Float)
    (b : Bench Scene) : (account Scene.world p result seconds b).2.outside = b.outside := by
  cases result <;> rfl

theorem terminate_outside (p : Publisher) (q : TimerQueue) (b : Bench Scene)
    (h : p.phase ≠ .terminated) :
    ((terminate Scene.world p q b).1.1 =
        { p with delayTimer := none, publishTimer := none, phase := .terminated }) ∧
      (terminate Scene.world p q b).2.outside = b.outside := by
  rw [terminate_eq Scene.world p q b h]
  exact ⟨rfl, rfl⟩

theorem delayElapsed_outside (q : TimerQueue) (b : Bench Scene) (h : p.phase = .delaying) :
    Elapsed p (delayElapsed Scene.world p q b).1.1 ∧
      (delayElapsed Scene.world p q b).2.outside = b.outside := by
  rw [delayElapsed_eq Scene.world p q b h]
  refine ⟨?_, rfl⟩
  exact ⟨⟨rfl, rfl, rfl⟩, h, rfl, rfl, rfl⟩

theorem tick_outside (q : TimerQueue) (h : p.phase = .publishing)
    (hscript : b.outside.script = none) :
    let reading := b.outside.calendar b.outside.readings
    let r := tick Scene.world p q b
    Ticked p r.1.1 reading ∧
      r.2.outside = { b.outside with
        readings := b.outside.readings + 1
        bus := b.outside.bus.publish p.outlet.subject (p.image reading).data
          (p.image reading).headers } := by
  intro reading r
  let next : Publisher :=
    { p with stamper := (p.stamper.stamp reading).2, published := p.published + 1 }
  let read : Bench Scene :=
    { b with outside := { b.outside with readings := b.outside.readings + 1 } }
  have hsent : (Scene.world.publish p.outlet.subject (p.image reading).data
      (p.image reading).headers read).2.outside = { b.outside with
        readings := b.outside.readings + 1
        bus := b.outside.bus.publish p.outlet.subject (p.image reading).data
          (p.image reading).headers } := by
    rw [Scene.world_publish_of_bus (b := read) hscript]
  obtain ⟨sent, hsentOutside, htick⟩ : ∃ sent : Bench Scene,
      sent.outside = { b.outside with
        readings := b.outside.readings + 1
        bus := b.outside.bus.publish p.outlet.subject (p.image reading).data
          (p.image reading).headers } ∧
      tick Scene.world p q b =
        if p.settings.maxCount ≤ p.published + 1 then terminate Scene.world next q sent
        else ((next, q), sent) :=
    ⟨_, (account_outside next _ _ _).trans hsent, tick_eq Scene.world p q b h⟩
  show Ticked p (tick Scene.world p q b).1.1 reading ∧
    (tick Scene.world p q b).2.outside = _
  rw [htick]
  by_cases hlast : p.settings.maxCount ≤ p.published + 1
  · obtain ⟨hended, hunchanged⟩ := terminate_outside next q sent (by simp [next, h])
    rw [if_pos hlast, hended, hunchanged]
    exact ⟨⟨⟨rfl, rfl, rfl⟩, h, (if_pos hlast).symm, rfl, rfl⟩, hsentOutside⟩
  · rw [if_neg hlast]
    exact ⟨⟨⟨rfl, rfl, rfl⟩, h, h.trans (if_neg hlast).symm, rfl, rfl⟩, hsentOutside⟩

/-- What a timer does: nothing, the end of the start delay, or a tick. -/
theorem onTimer_outside (p : Publisher) (q : TimerQueue) (timer : Handle)
    (hscript : b.outside.script = none) :
    let reading := b.outside.calendar b.outside.readings
    let r := onTimer Scene.world timer p q b
    (r.1.1 = p ∧ r.2.outside = b.outside) ∨
      (Elapsed p r.1.1 ∧ r.2.outside = b.outside) ∨
      (Ticked p r.1.1 reading ∧
        r.2.outside = { b.outside with
          readings := b.outside.readings + 1
          bus := b.outside.bus.publish p.outlet.subject (p.image reading).data
            (p.image reading).headers }) := by
  intro reading r
  by_cases hdelaying : p.phase = .delaying ∧ p.delayTimer = some timer
  · have hdelay : r = delayElapsed Scene.world p q b :=
      congrFun (onTimer_delaying Scene.world p q hdelaying.1 hdelaying.2) b
    rw [hdelay]
    exact Or.inr (Or.inl (delayElapsed_outside q b hdelaying.1))
  · by_cases hpublishing : p.phase = .publishing ∧ p.publishTimer = some timer
    · have htick : r = tick Scene.world p q b :=
        congrFun (onTimer_publishing Scene.world p q hpublishing.1 hpublishing.2) b
      rw [htick]
      exact Or.inr (Or.inr (tick_outside q hpublishing.1 hscript))
    · have hother : r = _ := onTimer_other Scene.world p q b timer hdelaying hpublishing
      rw [hother]
      exact Or.inl ⟨rfl, rfl⟩

end Publisher

end PacedImages
