import PacedImages.Proofs.BenchClock

/-!
# Laws of worlds

What holds under every clock, however late sleepers wake and however long the transport takes, rests
on few laws: the clock does not go back, a sleep ends at its deadline or later unless shutdown is
requested, and a request stays. Anybody may request shutdown at any time. A bench obeys these laws
whatever stands around it.
-/

namespace PacedImages

/-- Every action of a world but a message and a request for shutdown leads to a related state. -/
structure World.Moves {β : Type} (w : World (StateM β)) (R : β → β → Prop) : Prop where
  now (b : β) : R b (w.now b).2
  sleepUntil (t : Instant) (b : β) : R b (w.sleepUntil t b).2
  sleepOrShutdown (t : Instant) (b : β) : R b (w.sleepOrShutdown t b).2
  isShutdown (b : β) : R b (w.isShutdown b).2
  reading (b : β) : R b (w.reading b).2
  reserve (size : Nat) (b : β) : R b (w.reserve size b).2
  drawKey (b : β) : R b (w.drawKey b).2
  advertise (subject : String) (depth : Nat) (b : β) : R b (w.advertise subject depth b).2
  count (change : Metrics → Metrics) (b : β) : R b (w.count change b).2
  note (entry : LogEntry) (b : β) : R b (w.note entry b).2

/-- The clock of a world does not go back, and a sleep that shutdown does not end lasts to its
deadline at least. -/
structure World.KeepsTime {β : Type} (w : World (StateM β)) (clock : β → Instant) : Prop where
  moves : w.Moves fun b b' => clock b ≤ clock b'
  publish (subject : String) (payload : ByteArray) (headers : Headers) (b : β) :
    clock b ≤ clock (w.publish subject payload headers b).2
  requestShutdown (b : β) : clock b ≤ clock (w.requestShutdown b).2
  now (b : β) : clock b ≤ (w.now b).1 ∧ (w.now b).1 ≤ clock (w.now b).2
  sleepOrShutdown (t : Instant) (b : β) :
    (w.sleepOrShutdown t b).1 = false → t ≤ clock (w.sleepOrShutdown t b).2

/-- A request for shutdown stays. Whoever asks is told of it, and so is a sleeper when the sleep
ends; a report is no occasion for a request. -/
structure World.KeepsRequest {β : Type} (w : World (StateM β)) (stopped : β → Bool) : Prop where
  moves : w.Moves fun b b' => stopped b = true → stopped b' = true
  publish (subject : String) (payload : ByteArray) (headers : Headers) (b : β) :
    stopped b = true → stopped (w.publish subject payload headers b).2 = true
  requestShutdown (b : β) : stopped (w.requestShutdown b).2 = true
  isShutdown (b : β) : (w.isShutdown b).1 = stopped (w.isShutdown b).2
  sleepOrShutdown (t : Instant) (b : β) :
    (w.sleepOrShutdown t b).1 = stopped (w.sleepOrShutdown t b).2
  note (entry : LogEntry) (b : β) : stopped (w.note entry b).2 = stopped b

/-- From a calm state on nobody requests shutdown but the program. -/
structure World.Unprompted {β : Type} (w : World (StateM β)) (stopped : β → Bool)
    (calm : β → Prop) : Prop where
  moves : w.Moves fun b b' => calm b → calm b' ∧ stopped b' = stopped b
  publish (subject : String) (payload : ByteArray) (headers : Headers) (b : β) : calm b →
    calm (w.publish subject payload headers b).2 ∧
      stopped (w.publish subject payload headers b).2 = stopped b
  requestShutdown (b : β) : calm b → calm (w.requestShutdown b).2

/-! ## Worlds with a record -/

section

variable {β : Type} {w : World (StateM β)} {clock : β → Instant} {stopped : β → Bool}

theorem World.Moves.mono {R S : β → β → Prop} (moves : w.Moves R) (h : ∀ b b', R b b' → S b b') :
    w.Moves S where
  now b := h _ _ (moves.now b)
  sleepUntil t b := h _ _ (moves.sleepUntil t b)
  sleepOrShutdown t b := h _ _ (moves.sleepOrShutdown t b)
  isShutdown b := h _ _ (moves.isShutdown b)
  reading b := h _ _ (moves.reading b)
  reserve size b := h _ _ (moves.reserve size b)
  drawKey b := h _ _ (moves.drawKey b)
  advertise subject depth b := h _ _ (moves.advertise subject depth b)
  count change b := h _ _ (moves.count change b)
  note entry b := h _ _ (moves.note entry b)

theorem World.Moves.and {R S : β → β → Prop} (hr : w.Moves R) (hs : w.Moves S) :
    w.Moves fun b b' => R b b' ∧ S b b' where
  now b := ⟨hr.now b, hs.now b⟩
  sleepUntil t b := ⟨hr.sleepUntil t b, hs.sleepUntil t b⟩
  sleepOrShutdown t b := ⟨hr.sleepOrShutdown t b, hs.sleepOrShutdown t b⟩
  isShutdown b := ⟨hr.isShutdown b, hs.isShutdown b⟩
  reading b := ⟨hr.reading b, hs.reading b⟩
  reserve size b := ⟨hr.reserve size b, hs.reserve size b⟩
  drawKey b := ⟨hr.drawKey b, hs.drawKey b⟩
  advertise subject depth b := ⟨hr.advertise subject depth b, hs.advertise subject depth b⟩
  count change b := ⟨hr.count change b, hs.count change b⟩
  note entry b := ⟨hr.note entry b, hs.note entry b⟩

/-- With a record the actions move the state as before, and leave the record as it is. -/
theorem World.Moves.timed {R : β → β → Prop} (moves : w.Moves R) (clock : β → Instant) :
    (w.timed clock).Moves fun x y => y.sent = x.sent ∧ R x.state y.state where
  now x := ⟨rfl, moves.now x.state⟩
  sleepUntil t x := ⟨rfl, moves.sleepUntil t x.state⟩
  sleepOrShutdown t x := ⟨rfl, moves.sleepOrShutdown t x.state⟩
  isShutdown x := ⟨rfl, moves.isShutdown x.state⟩
  reading x := ⟨rfl, moves.reading x.state⟩
  reserve size x := ⟨rfl, moves.reserve size x.state⟩
  drawKey x := ⟨rfl, moves.drawKey x.state⟩
  advertise subject depth x := ⟨rfl, moves.advertise subject depth x.state⟩
  count change x := ⟨rfl, moves.count change x.state⟩
  note entry x := ⟨rfl, moves.note entry x.state⟩

theorem World.KeepsTime.timed (time : w.KeepsTime clock) :
    (w.timed clock).KeepsTime fun x => clock x.state where
  moves := (time.moves.timed clock).mono fun _ _ h => h.2
  publish subject payload headers x := time.publish subject payload headers x.state
  requestShutdown x := time.requestShutdown x.state
  now x := time.now x.state
  sleepOrShutdown t x := time.sleepOrShutdown t x.state

theorem World.KeepsRequest.timed (request : w.KeepsRequest stopped) (clock : β → Instant) :
    (w.timed clock).KeepsRequest fun x => stopped x.state where
  moves := (request.moves.timed clock).mono fun _ _ h => h.2
  publish subject payload headers x := request.publish subject payload headers x.state
  requestShutdown x := request.requestShutdown x.state
  isShutdown x := request.isShutdown x.state
  sleepOrShutdown t x := request.sleepOrShutdown t x.state
  note entry x := request.note entry x.state

/-- Who is told that shutdown is not requested asked before any request. -/
theorem World.KeepsRequest.running (request : w.KeepsRequest stopped) {b b' : β}
    (asked : w.isShutdown b = (false, b')) : stopped b = false := by
  have hanswer := request.isShutdown b
  have hstays := request.moves.isShutdown b
  rw [asked] at hanswer hstays
  cases hb : stopped b with
  | false => rfl
  | true => exact (hstays hb).symm.trans hanswer.symm

end

/-! ## The laws of a bench -/

/-- A sleep to an instant that has not passed does not end before it. -/
theorem Time.le_wake (clock t : Nat) : t ≤ wake clock (begun t) := by
  unfold wake begun passed millis nanosPerMilli
  omega

/-- An instant is past once the millisecond that it lies in, or that it begins, has passed. -/
theorem Time.le_of_begun_le_passed {clock t : Nat} (h : begun t ≤ passed clock) : t ≤ clock := by
  unfold begun passed nanosPerMilli at h
  omega

namespace Bench

variable {ω : Type} {b b' b'' : Bench ω}

/-- Nobody is going to request shutdown. -/
structure Unplanned (b : Bench ω) : Prop where
  unbegun : ∀ entry ∈ b.unbegun, entry.2.shutdown = false
  plan : ∀ entry ∈ b.plan, entry.2.shutdown = false

/-- What time makes of a bench: the clock does not go back, a request stays, and no request comes
that nobody planned. -/
structure Passes (b b' : Bench ω) : Prop where
  clock : b.clock ≤ b'.clock
  shutdown : b.shutdown = true → b'.shutdown = true
  calm : b.Unplanned → b'.Unplanned ∧ b'.shutdown = b.shutdown

theorem Passes.refl (b : Bench ω) : Passes b b := ⟨Nat.le_refl _, id, fun h => ⟨h, rfl⟩⟩

theorem Passes.trans (h : Passes b b') (h' : Passes b' b'') : Passes b b'' where
  clock := Nat.le_trans h.clock h'.clock
  shutdown hb := h'.shutdown (h.shutdown hb)
  calm hb := by
    obtain ⟨hcalm, hsame⟩ := h.calm hb
    obtain ⟨hcalm', hsame'⟩ := h'.calm hcalm
    exact ⟨hcalm', hsame'.trans hsame⟩

/-- Counts, reports and what stands around a bench are no matter of time. -/
theorem passes_aside (b : Bench ω) (metrics : Metrics) (log : List LogEntry) (outside : ω) :
    Passes b { b with metrics, log, outside } :=
  ⟨Nat.le_refl _, id, fun hb => ⟨⟨hb.unbegun, hb.plan⟩, rfl⟩⟩

theorem mem_enter {due : Nat} {h : Happening ω} {plan : List (Nat × Happening ω)}
    {entry : Nat × Happening ω} :
    entry ∈ enter due h plan ↔ entry = (due, h) ∨ entry ∈ plan := by
  induction plan with
  | nil => simp [enter]
  | cons other rest ih =>
    by_cases hdue : due < other.1
    · simp [enter, hdue]
    · simp only [enter, if_neg hdue, List.mem_cons, ih]
      exact or_left_comm

theorem passes_beginAll (b : Bench ω) : Passes b b.beginAll where
  clock := Nat.le_refl _
  shutdown := id
  calm hb := by
    refine ⟨⟨fun entry hentry => (by cases hentry), ?_⟩, rfl⟩
    -- Each of those that begin is entered into a plan without requests.
    have entered : ∀ (waiting : List (Duration × Happening ω)) (plan : List (Nat × Happening ω)),
        (∀ entry ∈ waiting, entry.2.shutdown = false) →
        (∀ entry ∈ plan, entry.2.shutdown = false) →
        ∀ entry ∈ waiting.foldl
          (fun plan first => enter (Time.begun (b.clock + first.1)) first.2 plan) plan,
          entry.2.shutdown = false := by
      intro waiting
      induction waiting with
      | nil => exact fun plan _ hplan => hplan
      | cons first rest ih =>
        intro plan hwaiting hplan
        apply ih _ fun entry hentry => hwaiting entry (List.mem_cons_of_mem _ hentry)
        intro entry hentry
        rcases mem_enter.mp hentry with rfl | hentry
        · exact hwaiting first List.mem_cons_self
        · exact hplan entry hentry
    exact entered b.unbegun b.plan hb.unbegun hb.plan

/-- The first of a plan happens, at its time or later. -/
theorem passes_suffer {clock : Instant} (hle : b.clock ≤ clock) (due : Nat) (h : Happening ω)
    (rest : List (Nat × Happening ω)) :
    Passes { b with plan := (due, h) :: rest }
      { suffer h { b with clock } with plan := rest } where
  clock := hle
  shutdown hb := by
    simp only at hb
    simp [suffer, hb]
  calm hb := by
    have hfirst : h.shutdown = false := hb.plan (due, h) List.mem_cons_self
    refine ⟨⟨hb.unbegun, fun entry hentry => hb.plan entry (List.mem_cons_of_mem _ hentry)⟩, ?_⟩
    simp [suffer, hfirst]

theorem passes_foldl (due plan : List (Nat × Happening ω)) (b : Bench ω) :
    Passes { b with plan := due ++ plan }
      (due.foldl (fun b entry => suffer entry.2 b) { b with plan }) := by
  induction due generalizing b with
  | nil => exact .refl _
  | cons first rest ih =>
    exact (passes_suffer (Nat.le_refl b.clock) first.1 first.2 (rest ++ plan)).trans
      (ih (suffer first.2 b))

theorem passes_happen (b : Bench ω) : Passes b b.happen := by
  unfold happen
  rw [List.span_eq_takeWhile_dropWhile]
  have hfold := passes_foldl (b.plan.takeWhile fun entry => entry.1 ≤ Time.passed b.clock)
    (b.plan.dropWhile fun entry => entry.1 ≤ Time.passed b.clock) b
  rw [List.takeWhile_append_dropWhile] at hfold
  exact hfold

theorem passes_giveWay (b : Bench ω) : Passes b b.giveWay :=
  (passes_beginAll b).trans (passes_happen b.beginAll)

theorem le_moveTo (milli : Nat) (b : Bench ω) : b.clock ≤ (b.moveTo milli).clock :=
  Nat.le_add_right b.clock (Time.millis (milli - Time.passed b.clock))

theorem passes_moveTo (milli : Nat) (b : Bench ω) (plan : List (Nat × Happening ω)) :
    Passes { b with plan } { b.moveTo milli with plan } := by
  have hle := le_moveTo milli b
  -- Taken apart, the benches are compared field by field, and never the clocks by counting.
  cases b
  exact ⟨hle, id, fun hb => ⟨⟨hb.unbegun, hb.plan⟩, rfl⟩⟩

theorem passes_passPlan (milli : Nat) (plan : List (Nat × Happening ω)) (b : Bench ω) :
    Passes { b with plan } (passPlan milli plan b) := by
  induction plan generalizing b with
  | nil => exact passes_moveTo milli b []
  | cons first rest ih =>
    obtain ⟨due, h⟩ := first
    rw [passPlan]
    split
    · exact (passes_suffer (le_moveTo due b) due h rest).trans (ih _)
    · exact passes_moveTo milli b _

theorem passes_passPlanOrShutdown (milli : Nat) (plan : List (Nat × Happening ω)) (b : Bench ω) :
    Passes { b with plan } (passPlanOrShutdown milli plan b) := by
  have ending (b : Bench ω) (plan : List (Nat × Happening ω)) :
      Passes { b with plan } { (if b.shutdown then b else b.moveTo milli) with plan } := by
    split
    · exact .refl _
    · exact passes_moveTo milli b plan
  induction plan generalizing b with
  | nil => exact ending b []
  | cons first rest ih =>
    obtain ⟨due, h⟩ := first
    rw [passPlanOrShutdown]
    split
    · exact (passes_suffer (le_moveTo due b) due h rest).trans (ih _)
    · exact ending b _

theorem passes_sleepUntil (t : Instant) (b : Bench ω) : Passes b (b.sleepUntil t) := by
  unfold sleepUntil
  split
  · exact .refl b
  · exact (passes_giveWay b).trans (passes_passPlan (Time.begun t) b.giveWay.plan b.giveWay)

theorem passes_sleepOrShutdown (t : Instant) (b : Bench ω) : Passes b (b.sleepOrShutdown t) := by
  unfold sleepOrShutdown
  split
  · exact .refl b
  · exact (passes_giveWay b).trans
      (passes_passPlanOrShutdown (Time.begun t) b.giveWay.plan b.giveWay)

theorem passes_publish (o : Outside ω) (subject : String) (payload : ByteArray)
    (headers : Headers) (b : Bench ω) : Passes b (publish o subject payload headers b).2 := by
  unfold publish
  simp only
  split
  · exact passes_aside b _ _ _
  · exact (passes_aside b _ _ _).trans (passes_sleepUntil _ _)

theorem le_passPlanOrShutdown (t : Instant) (plan : List (Nat × Happening ω)) (b : Bench ω)
    (hrunning : (passPlanOrShutdown (Time.begun t) plan b).shutdown = false) :
    t ≤ (passPlanOrShutdown (Time.begun t) plan b).clock := by
  have ending (b : Bench ω) (hb : (if b.shutdown then b
      else b.moveTo (Time.begun t)).shutdown = false) :
      t ≤ (if b.shutdown then b else b.moveTo (Time.begun t)).clock := by
    split at hb
    · next hstopped =>
      rw [hstopped] at hb
      cases hb
    · next hgoing =>
      rw [if_neg hgoing]
      exact Time.le_wake b.clock t
  induction plan generalizing b with
  | nil => exact ending b hrunning
  | cons first rest ih =>
    obtain ⟨due, h⟩ := first
    rw [passPlanOrShutdown] at hrunning ⊢
    split at hrunning
    · next hnext =>
      rw [if_pos hnext]
      exact ih _ hrunning
    · next hend =>
      rw [if_neg hend]
      exact ending b hrunning

theorem le_sleepOrShutdown (t : Instant) (b : Bench ω)
    (hrunning : (b.sleepOrShutdown t).shutdown = false) : t ≤ (b.sleepOrShutdown t).clock := by
  unfold sleepOrShutdown at hrunning ⊢
  split at hrunning
  · next hawake =>
    rw [hrunning, Bool.false_or, decide_eq_true_eq] at hawake
    rw [if_pos (by simp [hawake])]
    exact Time.le_of_begun_le_passed hawake
  · next hasleep =>
    rw [if_neg hasleep]
    exact le_passPlanOrShutdown t _ _ hrunning

theorem moves (o : Outside ω) : (world o).Moves Passes where
  now b := .refl b
  sleepUntil t b := passes_sleepUntil t b
  sleepOrShutdown t b := passes_sleepOrShutdown t b
  isShutdown b := .refl b
  reading b := passes_aside b _ _ _
  reserve _ b := passes_aside b _ _ _
  drawKey b := passes_aside b _ _ _
  advertise _ _ b := passes_aside b _ _ _
  count _ b := passes_aside b _ _ _
  note _ b := passes_aside b _ _ _

theorem keepsTime (o : Outside ω) : (world o).KeepsTime (·.clock) where
  moves := (moves o).mono fun _ _ h => h.clock
  publish subject payload headers b := (passes_publish o subject payload headers b).clock
  requestShutdown _ := Nat.le_refl _
  now _ := ⟨Nat.le_refl _, Nat.le_refl _⟩
  sleepOrShutdown t b := le_sleepOrShutdown t b

theorem keepsRequest (o : Outside ω) : (world o).KeepsRequest (·.shutdown) where
  moves := (moves o).mono fun _ _ h => h.shutdown
  publish subject payload headers b := (passes_publish o subject payload headers b).shutdown
  requestShutdown _ := rfl
  isShutdown _ := rfl
  sleepOrShutdown _ _ := rfl
  note _ _ := rfl

theorem unprompted (o : Outside ω) : (world o).Unprompted (·.shutdown) Unplanned where
  moves := (moves o).mono fun _ _ h => h.calm
  publish subject payload headers b := (passes_publish o subject payload headers b).calm
  requestShutdown _ hb := ⟨hb.unbegun, hb.plan⟩

end Bench

end PacedImages
