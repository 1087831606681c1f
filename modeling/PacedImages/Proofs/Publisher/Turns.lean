import Mathlib.Logic.Relation
import PacedImages.Proofs.Publisher.Settings
import PacedImages.Proofs.Publisher.Steps
import PacedImages.Proofs.Time.Handles

/-!
# A publisher among others

The calls of a publisher in any order, with timers that are its own, stale or foreign, and between
them whatever others do to the queue and to the world. Others do not cancel its timers, but they may
take them out when they are due. Main statement: whatever the turns, the timers that the publisher
remembers, its count and the request for shutdown fit its phase, and it never goes back.
-/

namespace PacedImages.Publisher

variable {β : Type}

/-- A publisher among others. -/
structure Site (β : Type) where
  node : Publisher
  queue : TimerQueue
  /-- The world, with a record of what this publisher handed to the transport. -/
  world : Timed β
  /-- Every timer that this publisher armed. -/
  armed : List Handle

namespace Site

/-- The handles that a queue gave since. -/
def given (before after : TimerQueue) : List Handle :=
  List.range' before.nextHandle (after.nextHandle - before.nextHandle)

/-- The site after a step of the publisher. -/
def act (s : Site β)
    (step : Publisher → TimerQueue → StateM (Timed β) (Publisher × TimerQueue)) : Site β :=
  let ((node, queue), world) := step s.node s.queue s.world
  { node, queue, world, armed := s.armed ++ given s.queue queue }

end Site

/-- One call of the publisher, or whatever others do meanwhile. -/
inductive Turn (w : World (StateM β)) (clock : β → Instant) (stopped : β → Bool) (s : Site β) :
    Site β → Prop where
  | timer (h : Handle) : Turn w clock stopped s (s.act (onTimer (w.timed clock) h))
  | delay : Turn w clock stopped s (s.act (delayElapsed (w.timed clock)))
  | tick : Turn w clock stopped s (s.act (tick (w.timed clock)))
  | terminate : Turn w clock stopped s (s.act (terminate (w.timed clock)))
  /-- Others use the queue, and spare the timers of this publisher. -/
  | others (call : TimerCall) (spared : ∀ h ∈ s.armed, call ≠ .cancel h) :
    Turn w clock stopped s { s with queue := (s.queue.serve call).2 }
  /-- Others change the world; a request for shutdown stays. -/
  | elsewhere (state : β) (stays : stopped s.world.state = true → stopped state = true) :
    Turn w clock stopped s { s with world := { s.world with state } }

/-- How far a publisher is. -/
def Phase.place : Phase → Nat
  | .constructed => 0
  | .delaying => 1
  | .publishing => 2
  | .terminated => 3

namespace Site

variable {settings : Settings} {stopped : β → Bool} {s s' : Site β}

/-- What holds of a publisher among others in every phase, and while it changes from one to the
next: of the timers that it armed, those that are live are the ones that it remembers. -/
structure Steady (settings : Settings) (s : Site β) : Prop where
  coherent : s.queue.Coherent
  unchanged : s.node.settings = settings
  given : ∀ h ∈ s.armed, h < s.queue.nextHandle
  own : ∀ h ∈ s.armed, s.queue.isActive h = true →
    s.node.delayTimer = some h ∨ s.node.publishTimer = some h
  counted : s.node.published.toNat = s.world.sent.length
  bounded : s.node.published ≤ settings.maxCount

/-- What holds in each phase. -/
structure Sound (settings : Settings) (stopped : β → Bool) (s : Site β) : Prop
    extends Steady settings s where
  started : s.node.phase ≠ .constructed
  delaying : s.node.phase = .delaying →
    s.node.delayTimer.isSome = true ∧ s.node.publishTimer = none ∧ s.node.published = 0
  publishing : s.node.phase = .publishing →
    s.node.delayTimer = none ∧ s.node.published < settings.maxCount ∧
      ∃ h ∈ s.armed, s.node.publishTimer = some h ∧
        ∃ period deadline, s.queue.timers[h]? = some ⟨.every period, deadline⟩
  terminated : s.node.phase = .terminated →
    s.node.delayTimer = none ∧ s.node.publishTimer = none ∧ stopped s.world.state = true

/-- A publisher does not go back. -/
structure Onward (s s' : Site β) : Prop where
  place : s.node.phase.place ≤ s'.node.phase.place
  published : s.node.published ≤ s'.node.published

theorem Onward.refl (s : Site β) : Onward s s := ⟨Nat.le_refl _, UInt32.le_refl _⟩

theorem Onward.trans {s'' : Site β} (h : Onward s s') (h' : Onward s' s'') : Onward s s'' :=
  ⟨Nat.le_trans h.place h'.place, UInt32.le_trans h.published h'.published⟩

/-! ## Steps -/

section

variable {node : Publisher} {queue : TimerQueue} {world : Timed β}
  {step : Publisher → TimerQueue → StateM (Timed β) (Publisher × TimerQueue)}

theorem given_of_eq {before after : TimerQueue} (h : after.nextHandle = before.nextHandle) :
    given before after = [] := by
  rw [given, h, Nat.sub_self, List.range'_zero]

theorem act_eq (h : step s.node s.queue s.world = ((node, queue), world)) :
    s.act step = { node, queue, world, armed := s.armed ++ given s.queue queue } := by
  unfold act
  rw [h]

/-- A step that gives no handle. -/
theorem act_eq_of_none (h : step s.node s.queue s.world = ((node, queue), world))
    (hnext : queue.nextHandle = s.queue.nextHandle) :
    s.act step = { node, queue, world, armed := s.armed } := by
  rw [act_eq h, given_of_eq hnext, List.append_nil]

/-- A step that does nothing. -/
theorem act_still (h : step s.node s.queue s.world = ((s.node, s.queue), s.world)) :
    s.act step = s :=
  act_eq_of_none h rfl

end

section

variable {w : World (StateM β)} (clock : β → Instant)

/-- What nothing but a message or a request changes stays so from one action to the next. -/
theorem stays_trans {x x' x'' : Timed β}
    (h : x'.sent = x.sent ∧ (stopped x.state = true → stopped x'.state = true))
    (h' : x''.sent = x'.sent ∧ (stopped x'.state = true → stopped x''.state = true)) :
    x''.sent = x.sent ∧ (stopped x.state = true → stopped x''.state = true) :=
  ⟨h'.1.trans h.1, fun hx => h'.2 (h.2 hx)⟩

theorem Sound.moved (sound : s.Sound settings stopped) {world : Timed β}
    (hsent : world.sent = s.world.sent)
    (hstays : stopped s.world.state = true → stopped world.state = true) :
    Sound settings stopped { s with world } where
  coherent := sound.coherent
  unchanged := sound.unchanged
  given := sound.given
  own := sound.own
  counted := by
    rw [hsent]
    exact sound.counted
  bounded := sound.bounded
  started := sound.started
  delaying := sound.delaying
  publishing := sound.publishing
  terminated := by
    intro hphase
    obtain ⟨hdelay, hpublish, hstopped⟩ := sound.terminated hphase
    exact ⟨hdelay, hpublish, hstays hstopped⟩

/-- Whatever it remembers, a publisher that ends remembers no timer and leaves none. -/
theorem Steady.terminate (request : w.KeepsRequest stopped) (steady : s.Steady settings)
    (hphase : s.node.phase ≠ .terminated) :
    (s.act (Publisher.terminate (w.timed clock))).Sound settings stopped ∧
      Onward s (s.act (Publisher.terminate (w.timed clock))) := by
  obtain ⟨noted, ⟨hsent, _⟩, hstep⟩ :=
    exists_terminate (q := s.queue) (b := s.world) (request.moves.timed clock) hphase
  have hnext : (cancelTimer s.node.publishTimer
      (cancelTimer s.node.delayTimer s.queue)).nextHandle = s.queue.nextHandle := by
    rw [nextHandle_cancelTimer, nextHandle_cancelTimer]
  rw [act_eq_of_none hstep hnext]
  refine ⟨⟨⟨?_, steady.unchanged, ?_, ?_, ?_, steady.bounded⟩, ?_, ?_, ?_, ?_⟩, ?_, ?_⟩
  · exact coherent_cancelTimer (coherent_cancelTimer steady.coherent _) _
  · intro h hmem
    rw [hnext]
    exact steady.given h hmem
  · intro h hmem hlive
    rw [TimerQueue.isActive_eq, getElem?_cancelTimer, getElem?_cancelTimer] at hlive
    by_cases hpublish : s.node.publishTimer = some h
    · rw [if_pos hpublish] at hlive
      cases hlive
    · by_cases hdelay : s.node.delayTimer = some h
      · rw [if_neg hpublish, if_pos hdelay] at hlive
        cases hlive
      · rw [if_neg hpublish, if_neg hdelay, ← TimerQueue.isActive_eq] at hlive
        rcases steady.own h hmem hlive with hown | hown
        · exact absurd hown hdelay
        · exact absurd hown hpublish
  · show s.node.published.toNat = noted.sent.length
    rw [hsent]
    exact steady.counted
  · simp
  · simp
  · simp
  · intro _
    exact ⟨rfl, rfl, request.requestShutdown noted.state⟩
  · cases hplace : s.node.phase <;> simp [Phase.place]
  · exact UInt32.le_refl _

/-- The timer of the period takes the place of the one of the delay. -/
theorem Sound.delayElapsed (request : w.KeepsRequest stopped) (sound : s.Sound settings stopped)
    (hmax : 0 < settings.maxCount) :
    (s.act (Publisher.delayElapsed (w.timed clock))).Sound settings stopped ∧
      Onward s (s.act (Publisher.delayElapsed (w.timed clock))) := by
  by_cases hphase : s.node.phase = .delaying
  · obtain ⟨world, ⟨hsent, _⟩, hstep⟩ :=
      exists_delayElapsed (q := s.queue) (b := s.world) (request.moves.timed clock) stays_trans
        hphase
    obtain ⟨_, hnone, hzero⟩ := sound.delaying hphase
    let queue := ((cancelTimer s.node.delayTimer s.queue).scheduleEvery
      ((w.timed clock).now s.world).1 s.node.settings.period).2
    have hnext : queue.nextHandle = s.queue.nextHandle + 1 := nextHandle_relay _ _ _ _
    have hgiven : given s.queue queue = [s.queue.nextHandle] := by
      rw [given, hnext, Nat.add_sub_cancel_left, List.range'_one]
    rw [act_eq hstep, hgiven]
    refine ⟨⟨⟨?_, sound.unchanged, ?_, ?_, ?_, sound.bounded⟩, ?_, ?_, ?_, ?_⟩, ?_, ?_⟩
    · exact (coherent_cancelTimer sound.coherent _).arm _ _
    · intro h hmem
      show h < queue.nextHandle
      rw [hnext]
      rcases List.mem_append.mp hmem with hold | hnew
      · exact Nat.lt_succ_of_lt (sound.given h hold)
      · rw [List.mem_singleton.mp hnew]
        exact Nat.lt_succ_self _
    · intro h hmem hlive
      by_cases hnew : s.queue.nextHandle = h
      · exact Or.inr (congrArg some hnew)
      · have hold : h ∈ s.armed := by
          rcases List.mem_append.mp hmem with hold | hlast
          · exact hold
          · exact absurd (List.mem_singleton.mp hlast).symm hnew
        rw [TimerQueue.isActive_eq, getElem?_relay, if_neg hnew] at hlive
        split at hlive
        · cases hlive
        · next hspared =>
          rcases sound.own h hold (by rw [TimerQueue.isActive_eq, hlive]) with hown | hown
          · exact absurd hown hspared
          · rw [hnone] at hown
            cases hown
    · show s.node.published.toNat = world.sent.length
      rw [hsent]
      exact sound.counted
    · simp
    · simp
    · intro _
      have htimer := getElem?_relay s.node.delayTimer s.queue ((w.timed clock).now s.world).1
        s.node.settings.period s.queue.nextHandle
      rw [if_pos rfl] at htimer
      exact ⟨rfl, hzero ▸ hmax, s.queue.nextHandle, by simp, rfl, _, _, htimer⟩
    · simp
    · simp [hphase, Phase.place]
    · exact UInt32.le_refl _
  · rw [act_still (delayElapsed_of_ne _ _ _ _ hphase)]
    exact ⟨sound, .refl s⟩

/-- The count keeps up with what was handed to the transport. -/
theorem Steady.sent (steady : s.Steady settings) (hless : s.node.published < settings.maxCount)
    (stamper : Stamper) {world : Timed β} {t : Instant}
    (hsent : world.sent = s.world.sent ++ [t]) :
    let after : Site β :=
      { s with node := { s.node with stamper, published := s.node.published + 1 }, world }
    after.Steady settings ∧ Onward s after := by
  intro after
  have hsucc : (s.node.published + 1).toNat = s.node.published.toNat + 1 :=
    toNat_succ_of_lt hless
  refine ⟨⟨steady.coherent, steady.unchanged, steady.given, steady.own, ?_, ?_⟩,
    Nat.le_refl _, ?_⟩
  · show (s.node.published + 1).toNat = world.sent.length
    rw [hsucc, hsent, List.length_append, steady.counted]
    rfl
  · rw [UInt32.le_iff_toNat_le, hsucc]
    exact Nat.succ_le_of_lt (UInt32.lt_iff_toNat_lt.mp hless)
  · rw [UInt32.le_iff_toNat_le, hsucc]
    exact Nat.le_succ _

/-- One image more is sent; with the last one the publisher ends. -/
theorem Sound.tick (request : w.KeepsRequest stopped) (sound : s.Sound settings stopped) :
    (s.act (Publisher.tick (w.timed clock))).Sound settings stopped ∧
      Onward s (s.act (Publisher.tick (w.timed clock))) := by
  by_cases hphase : s.node.phase = .publishing
  · obtain ⟨stamper, payload, headers, read, counted, ⟨hread, _⟩, ⟨hcounted, _⟩, htick⟩ :=
      exists_tick (q := s.queue) (b := s.world) (request.moves.timed clock) stays_trans
        hphase
    obtain ⟨hdelay, hless, htimer⟩ := sound.publishing hphase
    have hsent : counted.sent = s.world.sent ++ [clock read.state] := by
      rw [hcounted, ← hread]
      rfl
    let after : Site β :=
      { s with
        node := { s.node with stamper, published := s.node.published + 1 }
        world := counted }
    obtain ⟨steady, honward⟩ : after.Steady settings ∧ Onward s after :=
      sound.toSteady.sent hless stamper hsent
    by_cases hlast : s.node.settings.maxCount ≤ s.node.published + 1
    · have hact : s.act (Publisher.tick (w.timed clock)) =
          after.act (Publisher.terminate (w.timed clock)) := by
        simp only [if_pos hlast] at htick
        unfold act
        rw [htick]
      rw [hact]
      obtain ⟨sound', honward'⟩ := steady.terminate clock request (by simp [after, hphase])
      exact ⟨sound', honward.trans honward'⟩
    · simp only [if_neg hlast] at htick
      rw [act_eq_of_none htick rfl]
      refine ⟨⟨steady, sound.started, ?_, ?_, ?_⟩, honward⟩
      · intro hdelaying
        rw [show s.node.phase = .delaying from hdelaying] at hphase
        cases hphase
      · intro _
        rw [sound.unchanged, UInt32.not_le] at hlast
        exact ⟨hdelay, hlast, htimer⟩
      · intro hterminated
        rw [show s.node.phase = .terminated from hterminated] at hphase
        cases hphase
  · rw [act_still (tick_of_ne _ _ _ _ hphase)]
    exact ⟨sound, .refl s⟩

theorem Sound.terminate (request : w.KeepsRequest stopped) (sound : s.Sound settings stopped) :
    (s.act (Publisher.terminate (w.timed clock))).Sound settings stopped ∧
      Onward s (s.act (Publisher.terminate (w.timed clock))) := by
  by_cases hphase : s.node.phase = .terminated
  · rw [act_still (terminate_of_terminated _ _ _ _ hphase)]
    exact ⟨sound, .refl s⟩
  · exact sound.toSteady.terminate clock request hphase

theorem Sound.timer (request : w.KeepsRequest stopped) (sound : s.Sound settings stopped)
    (hmax : 0 < settings.maxCount) (h : Handle) :
    (s.act (onTimer (w.timed clock) h)).Sound settings stopped ∧
      Onward s (s.act (onTimer (w.timed clock) h)) := by
  rcases onTimer_cases (p := s.node) (q := s.queue) (b := s.world) (request.moves.timed clock) h
    with ⟨_, _, hstep⟩ | ⟨_, _, hstep⟩ | ⟨world, ⟨hsent, hstays⟩, hstep⟩
  · have hact : s.act (onTimer (w.timed clock) h) =
        s.act (Publisher.delayElapsed (w.timed clock)) := by
      unfold act
      rw [hstep]
    rw [hact]
    exact sound.delayElapsed clock request hmax
  · have hact : s.act (onTimer (w.timed clock) h) = s.act (Publisher.tick (w.timed clock)) := by
      unfold act
      rw [hstep]
    rw [hact]
    exact sound.tick clock request
  · rw [act_eq_of_none hstep rfl]
    exact ⟨sound.moved hsent hstays, Nat.le_refl _, UInt32.le_refl _⟩

end

/-- Calls of others leave the timers of the publisher, or take them out when they are due. -/
theorem Sound.others (sound : s.Sound settings stopped) {call : TimerCall}
    (spared : ∀ h ∈ s.armed, call ≠ .cancel h) :
    Sound settings stopped { s with queue := (s.queue.serve call).2 } where
  coherent := (TimerQueue.serve_eq_set sound.coherent call).2.2
  unchanged := sound.unchanged
  given := by
    intro h hmem
    exact Nat.lt_of_lt_of_le (sound.given h hmem) (TimerQueue.nextHandle_serve sound.coherent call)
  own := by
    intro h hmem hlive
    apply sound.own h hmem
    rw [TimerQueue.isActive_eq] at hlive ⊢
    cases ht : s.queue.timers[h]? with
    | some t => rfl
    | none =>
      rw [TimerQueue.serve_gone sound.coherent (sound.given h hmem) ht] at hlive
      cases hlive
  counted := sound.counted
  bounded := sound.bounded
  started := sound.started
  delaying := sound.delaying
  publishing := by
    intro hphase
    obtain ⟨hdelay, hless, h, hmem, hpublish, period, deadline, htimer⟩ := sound.publishing hphase
    obtain ⟨later, hlater⟩ := TimerQueue.serve_every sound.coherent htimer (spared h hmem)
    exact ⟨hdelay, hless, h, hmem, hpublish, period, later, hlater⟩
  terminated := sound.terminated

/-! ## Runs of turns -/

section

variable {w : World (StateM β)} {clock : β → Instant}

theorem Sound.turn (request : w.KeepsRequest stopped) (hmax : 0 < settings.maxCount)
    (sound : s.Sound settings stopped) (turn : Turn w clock stopped s s') :
    s'.Sound settings stopped ∧ Onward s s' := by
  cases turn with
  | timer h => exact sound.timer clock request hmax h
  | delay => exact sound.delayElapsed clock request hmax
  | tick => exact sound.tick clock request
  | terminate => exact sound.terminate clock request
  | others call spared => exact ⟨sound.others spared, Nat.le_refl _, UInt32.le_refl _⟩
  | elsewhere state stays =>
    exact ⟨sound.moved rfl stays, Nat.le_refl _, UInt32.le_refl _⟩

theorem Sound.turns (request : w.KeepsRequest stopped) (hmax : 0 < settings.maxCount)
    (sound : s.Sound settings stopped)
    (turns : Relation.ReflTransGen (Turn w clock stopped) s s') :
    s'.Sound settings stopped ∧ Onward s s' := by
  induction turns with
  | refl => exact ⟨sound, .refl s⟩
  | tail _ turn ih =>
    obtain ⟨sound', honward⟩ := ih
    obtain ⟨sound'', honward'⟩ := sound'.turn request hmax turn
    exact ⟨sound'', honward.trans honward'⟩

/-- A publisher that was just started on a coherent queue. -/
theorem Sound.of_start (request : w.KeepsRequest stopped) {name topic : String} {depth : Nat}
    {book : SubjectBook} {p : Publisher} {q q₁ : TimerQueue} {x x₁ : Timed β} (c : q.Coherent)
    (hunsent : x.sent = [])
    (hstart : (start (w.timed clock) name topic settings depth book q).run x = (.ok (p, q₁), x₁)) :
    0 < settings.maxCount ∧ Sound settings stopped ⟨p, q₁, x₁, given q q₁⟩ := by
  obtain ⟨hvalid, ⟨outlet, payload, rfl⟩, read, ⟨hread, _⟩, ⟨hsent, _⟩, rfl⟩ :=
    start_moves (request.moves.timed clock) stays_trans hstart
  have hmax := (Settings.validate_eq_ok_iff.mp hvalid).1
  have hgiven : given q (q.arm .once
      (((w.timed clock).now read).1 + settings.startDelay)).2 = [q.nextHandle] := by
    show List.range' q.nextHandle (q.nextHandle + 1 - q.nextHandle) = _
    rw [Nat.add_sub_cancel_left, List.range'_one]
  rw [hgiven]
  refine ⟨UInt32.lt_iff_toNat_lt.mpr hmax, ⟨c.arm _ _, rfl, ?_, ?_, ?_, ?_⟩, ?_, ?_, ?_, ?_⟩
  · intro h hmem
    rw [List.mem_singleton.mp hmem]
    exact Nat.lt_succ_self _
  · intro h hmem _
    rw [List.mem_singleton.mp hmem]
    exact Or.inl rfl
  · have hx₁ : x₁.sent = [] := by
      rw [hsent, ← hunsent, ← hread]
      rfl
    rw [hx₁]
    rfl
  · exact UInt32.zero_le
  · simp [launched]
  · intro _
    exact ⟨rfl, rfl, rfl⟩
  · simp [launched]
  · simp [launched]

end

end Site

/-- The state of a publisher under any calls of it and among whatever others do. -/
theorem turns_keep_state {w : World (StateM β)} {clock : β → Instant} {stopped : β → Bool}
    (request : w.KeepsRequest stopped) {name topic : String} {settings : Settings} {depth : Nat}
    {book : SubjectBook} {p : Publisher} {q q₁ : TimerQueue} {x x₁ : Timed β} {s : Site β}
    (reachable : q.Reachable) (hunsent : x.sent = [])
    (hstart : (start (w.timed clock) name topic settings depth book q).run x = (.ok (p, q₁), x₁))
    (turns : Relation.ReflTransGen (Turn w clock stopped) ⟨p, q₁, x₁, Site.given q q₁⟩ s) :
    s.node.settings = settings ∧ s.node.phase ≠ .constructed ∧
      (s.node.phase = .delaying →
        (∃ h, s.node.delayTimer = some h) ∧ s.node.publishTimer = none ∧ s.node.published = 0) ∧
      (s.node.phase = .publishing → s.node.delayTimer = none ∧
        (∃ h, s.node.publishTimer = some h ∧ s.queue.isActive h = true) ∧
        s.node.published < settings.maxCount ∧
        (s.node.published + 1).toNat = s.node.published.toNat + 1) ∧
      (s.node.phase = .terminated → s.node.delayTimer = none ∧ s.node.publishTimer = none ∧
        (∀ h ∈ s.armed, s.queue.isActive h = false) ∧ stopped s.world.state = true) ∧
      s.node.published ≤ settings.maxCount ∧
      s.node.published.toNat = s.world.sent.length ∧
      ∀ s', Relation.ReflTransGen (Turn w clock stopped) s s' →
        s.node.phase.place ≤ s'.node.phase.place ∧ s.node.published ≤ s'.node.published ∧
          (s.node.phase = .terminated → s'.node.phase = .terminated) := by
  obtain ⟨hmax, sound₁⟩ := Site.Sound.of_start request reachable.coherent hunsent hstart
  obtain ⟨sound, _⟩ := sound₁.turns request hmax turns
  refine ⟨sound.unchanged, sound.started, ?_, ?_, ?_, sound.bounded, sound.counted, ?_⟩
  · intro hphase
    obtain ⟨hdelay, hrest⟩ := sound.delaying hphase
    exact ⟨Option.isSome_iff_exists.mp hdelay, hrest⟩
  · intro hphase
    obtain ⟨hdelay, hless, h, _, hpublish, period, deadline, htimer⟩ := sound.publishing hphase
    refine ⟨hdelay, ⟨h, hpublish, ?_⟩, hless, toNat_succ_of_lt hless⟩
    rw [TimerQueue.isActive_eq, htimer]
    rfl
  · intro hphase
    obtain ⟨hdelay, hpublish, hstopped⟩ := sound.terminated hphase
    refine ⟨hdelay, hpublish, ?_, hstopped⟩
    intro h hmem
    cases hlive : s.queue.isActive h with
    | false => rfl
    | true =>
      rcases sound.own h hmem hlive with hown | hown
      · rw [hdelay] at hown
        cases hown
      · rw [hpublish] at hown
        cases hown
  · intro s' turns'
    obtain ⟨_, honward⟩ := sound.turns request hmax turns'
    refine ⟨honward.place, honward.published, ?_⟩
    intro hphase
    have hplace := honward.place
    rw [hphase] at hplace
    cases hphase' : s'.node.phase with
    | terminated => rfl
    | _ =>
      rw [hphase'] at hplace
      simp [Phase.place] at hplace

/-- Others arm a timer before the publisher starts, and take its delay timer out. The publisher is
called for a timer that it never had, then for the end of the delay and for an image, for the old
delay timer, for the second and last image, which the transport refuses, and once more. -/
theorem turns_keep_state_disturbed :
    let scene : Scene :=
      { Scene.fresh with script := some ⟨none, [.accepted 0, .refused "gone"]⟩ }
    let settings : Settings := ⟨Time.millis 10, 2, 0, Time.millis 5, "", some 1⟩
    let w := Scene.world.timed (·.clock)
    let q := (TimerQueue.empty.serve (.once 0 (Time.millis 1))).2
    let q₁ := (q.serve (.once 0 (Time.millis 5))).2
    let p := launched "camera" settings ⟨"image", "image", 16⟩ ⟨#[]⟩ 1
    let begun := (start w "camera" "image" settings 16 .plain q).run ⟨Bench.fresh scene, []⟩
    let s₀ : Site (Bench Scene) := ⟨p, q₁, begun.2, Site.given q q₁⟩
    let s₁ := { s₀ with queue := (s₀.queue.serve (.popDue (Time.millis 9))).2 }
    let s₂ := { s₁ with queue := (s₁.queue.serve (.popDue (Time.millis 9))).2 }
    let s := (((((s₂.act (onTimer w 7)).act (delayElapsed w)).act (tick w)).act (onTimer w 1)).act
      (onTimer w 2)).act (tick w)
    begun.1 = .ok (p, q₁) ∧
      Relation.ReflTransGen (Turn Scene.world (·.clock) (·.shutdown)) s₀ s ∧
      s.node.phase = .terminated ∧ s.node.published = 2 ∧ s.world.sent.length = 2 ∧
      ∀ h ∈ s.armed, s.queue.isActive h = false := by
  intro scene settings w q q₁ p begun s₀ s₁ s₂ s
  have reachable : q.Reachable := ⟨[.once 0 (Time.millis 1)], rfl⟩
  have hbegun : begun.1 = .ok (p, q₁) := by
    simp only [begun, p, q₁, q, w, settings, scene]
    rfl
  have hstart : begun = (.ok (p, q₁), begun.2) := Prod.ext hbegun rfl
  have popped (s : Site (Bench Scene)) : Turn Scene.world (·.clock) (·.shutdown) s
      { s with queue := (s.queue.serve (.popDue (Time.millis 9))).2 } :=
    .others (.popDue (Time.millis 9)) (by simp)
  have turns₂ : Relation.ReflTransGen (Turn Scene.world (·.clock) (·.shutdown)) s₀ s₂ :=
    (Relation.ReflTransGen.single (popped s₀)).tail (popped s₁)
  have turns : Relation.ReflTransGen (Turn Scene.world (·.clock) (·.shutdown)) s₀ s :=
    (((((turns₂.tail (.timer 7)).tail .delay).tail .tick).tail (.timer 1)).tail (.timer 2)).tail
      .tick
  have hphase : s.node.phase = .terminated := by
    decide +kernel
  have hpublished : s.node.published = 2 := by
    decide +kernel
  obtain ⟨_, _, _, _, hterminated, _, hcounted, _⟩ :=
    turns_keep_state (Bench.keepsRequest Scene.outside) reachable rfl hstart turns
  refine ⟨hbegun, turns, hphase, hpublished, ?_, (hterminated hphase).2.2.1⟩
  rw [← hcounted, hpublished]
  rfl

end PacedImages.Publisher
