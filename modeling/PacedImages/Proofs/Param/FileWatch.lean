import PacedImages.Param.Source
import PacedImages.Proofs.BenchClock

/-!
# Watching a file

What shows of a world while a file is waited for: the clock, and when the file was looked for. On a
bench the file comes and goes as it is planned; in each millisecond it is met as what was due before
has left it.
-/

namespace PacedImages

/-- What shows while a file is waited for. -/
structure Looks where
  clock : Instant
  /-- When the file was looked for, in order. -/
  made : List Instant

def Looks.look (v : Looks) : Looks := { v with made := v.made ++ [v.clock] }

/-- In the world `w` a sleep ends at its deadline and looking takes no time: `shows b v` says that
the state `b` shows `v`. -/
structure FileWatch {β : Type} (w : World (StateM β)) (file : ParamFile (StateM β))
    (exact : Instant → Prop) (isThere : Instant → Bool) (shows : β → Looks → Prop) : Prop where
  now {b v} : shows b v → (w.now b).1 = v.clock ∧ shows (w.now b).2 v
  look {b v} : shows b v → (file.isThere b).1 = isThere v.clock ∧ shows (file.isThere b).2 v.look
  sleep {b v} (t : Instant) : shows b v → v.clock < t → exact t →
    shows (w.sleepUntil t b).2 { v with clock := t }

/-! ## Worlds with a record -/

/-- A world seen from where its actions are carried to. -/
def World.over {m n : Type → Type} (carry : {α : Type} → m α → n α) (w : World m) : World n where
  now := carry w.now
  sleepUntil t := carry (w.sleepUntil t)
  sleepOrShutdown t := carry (w.sleepOrShutdown t)
  isShutdown := carry w.isShutdown
  requestShutdown := carry w.requestShutdown
  reading := carry w.reading
  reserve size := carry (w.reserve size)
  drawKey := carry w.drawKey
  advertise subject depth := carry (w.advertise subject depth)
  publish subject payload headers := carry (w.publish subject payload headers)
  count change := carry (w.count change)
  note entry := carry (w.note entry)

/-- A state with the instants at which a file was looked for. -/
structure Watched (β : Type) where
  state : β
  looks : List Instant

/-- An action that leaves the record as it is. -/
def Watched.carry {α β : Type} (act : StateM β α) : StateM (Watched β) α := fun x =>
  let (a, state) := act x.state
  (a, { x with state })

/-- The file with a record of when it is looked for. -/
def ParamFile.watched {β : Type} (file : ParamFile (StateM β)) (clock : β → Instant) :
    ParamFile (StateM (Watched β)) where
  path := file.path
  isThere := fun x =>
    let (there, state) := file.isThere x.state
    (there, ⟨state, x.looks ++ [clock x.state]⟩)
  read := Watched.carry file.read

/-! ## The plan of a bench -/

section

variable {α : Type} {p q : α → Bool}

theorem takeWhile_append_takeWhile (h : ∀ a, p a = true → q a = true) (l : List α) :
    l.takeWhile p ++ (l.dropWhile p).takeWhile q = l.takeWhile q := by
  induction l with
  | nil => rfl
  | cons a rest ih =>
    cases hp : p a with
    | true => simp [hp, h a hp, ih]
    | false => simp [hp]

theorem dropWhile_dropWhile (h : ∀ a, p a = true → q a = true) (l : List α) :
    (l.dropWhile p).dropWhile q = l.dropWhile q := by
  induction l with
  | nil => rfl
  | cons a rest ih =>
    cases hp : p a with
    | true => simp [hp, h a hp, ih]
    | false => simp [hp]

end

namespace Bench

variable {ω : Type} {b : Bench ω} {planned : List (Nat × Happening ω)} {x : ω} {c d : Nat}

/-- What stands around a bench once all of this has happened. -/
def afterAll (happenings : List (Nat × Happening ω)) (x : ω) : ω :=
  happenings.foldl (fun x entry => entry.2.act x) x

/-- What is met in a millisecond: whatever was planned before it has happened. -/
def metIn (planned : List (Nat × Happening ω)) (x : ω) (milli : Nat) : ω :=
  afterAll (planned.takeWhile (·.1 < milli)) x

/-- The bench has come to a millisecond by the plan. -/
structure ComeTo (planned : List (Nat × Happening ω)) (x : ω) (c : Nat) (b : Bench ω) : Prop where
  clock : b.clock = Time.millis c
  unbegun : b.unbegun = []
  plan : b.plan = planned.dropWhile (·.1 < c)
  outside : b.outside = metIn planned x c

/-- Only the clock moves. -/
theorem exists_moveTo (d : Nat) (b : Bench ω) : ∃ t, b.moveTo d = { b with clock := t } :=
  ⟨_, rfl⟩

/-- A bench that passes its plan keeps what was set off and what it counted. -/
theorem passPlan_eq (d : Nat) (plan : List (Nat × Happening ω)) (b : Bench ω) :
    ∃ clock shutdown, passPlan d plan b =
      { b with
        clock
        plan := plan.dropWhile (·.1 < d)
        shutdown
        outside := afterAll (plan.takeWhile (·.1 < d)) b.outside } := by
  induction plan generalizing b with
  | nil =>
    obtain ⟨t, ht⟩ := exists_moveTo d b
    rw [passPlan, ht]
    exact ⟨t, b.shutdown, rfl⟩
  | cons first rest ih =>
    obtain ⟨due, h⟩ := first
    rw [passPlan]
    by_cases hdue : due < d
    · obtain ⟨t, ht⟩ := exists_moveTo due b
      obtain ⟨clock, shutdown, hrest⟩ := ih (suffer h (b.moveTo due))
      rw [if_pos hdue, hrest, ht]
      refine ⟨clock, shutdown, ?_⟩
      simp only [List.dropWhile_cons, List.takeWhile_cons, hdue, decide_true, if_true]
      rfl
    · obtain ⟨t, ht⟩ := exists_moveTo d b
      rw [if_neg hdue, ht]
      refine ⟨t, b.shutdown, ?_⟩
      simp only [List.dropWhile_cons, List.takeWhile_cons, hdue, decide_false,
        Bool.false_eq_true, if_false]
      rfl

theorem clock_moveTo (d : Nat) (b : Bench ω) : (b.moveTo d).clock = Time.wake b.clock d := rfl

theorem clock_suffer (h : Happening ω) (b : Bench ω) : (suffer h b).clock = b.clock := rfl

theorem clock_setPlan (plan : List (Nat × Happening ω)) (b : Bench ω) :
    { b with plan }.clock = b.clock := rfl

/-- It comes to the millisecond it sleeps to. -/
theorem clock_passPlan (plan : List (Nat × Happening ω)) (hclock : b.clock = Time.millis c)
    (hle : c ≤ d) : (passPlan d plan b).clock = Time.millis d := by
  induction plan generalizing b c with
  | nil =>
    rw [passPlan, clock_setPlan, clock_moveTo, hclock, Time.wake_millis, Nat.max_eq_right hle]
  | cons first rest ih =>
    obtain ⟨due, h⟩ := first
    rw [passPlan]
    by_cases hdue : due < d
    · rw [if_pos hdue]
      refine ih (c := max c due) ?_ (Nat.max_le.mpr ⟨hle, Nat.le_of_lt hdue⟩)
      rw [clock_suffer, clock_moveTo, hclock, Time.wake_millis]
    · rw [if_neg hdue, clock_setPlan, clock_moveTo, hclock, Time.wake_millis, Nat.max_eq_right hle]

theorem foldl_suffer (happenings : List (Nat × Happening ω)) (b : Bench ω) :
    ∃ shutdown, happenings.foldl (fun b entry => suffer entry.2 b) b =
      { b with shutdown, outside := afterAll happenings b.outside } := by
  induction happenings generalizing b with
  | nil => exact ⟨b.shutdown, rfl⟩
  | cons first rest ih => exact ih (suffer first.2 b)

theorem happen_eq (b : Bench ω) :
    ∃ shutdown, b.happen =
      { b with
        plan := b.plan.dropWhile (·.1 ≤ Time.passed b.clock)
        shutdown
        outside := afterAll (b.plan.takeWhile (·.1 ≤ Time.passed b.clock)) b.outside } := by
  simp only [happen, List.span_eq_takeWhile_dropWhile]
  exact foldl_suffer _ { b with plan := b.plan.dropWhile (·.1 ≤ Time.passed b.clock) }

/-- What happens by two dates in turn is what happens by the second. -/
theorem afterAll_takeWhile {p q : Nat × Happening ω → Bool}
    (h : ∀ entry, p entry = true → q entry = true) (plan : List (Nat × Happening ω)) (x : ω) :
    afterAll ((plan.dropWhile p).takeWhile q) (afterAll (plan.takeWhile p) x) =
      afterAll (plan.takeWhile q) x := by
  unfold afterAll
  rw [← List.foldl_append, takeWhile_append_takeWhile h]

/-- A sleep to a later millisecond passes what is due before it. -/
theorem ComeTo.sleepUntil (h : ComeTo planned x c b) (hlt : c < d) :
    ComeTo planned x d (b.sleepUntil (Time.millis d)) := by
  have hnow : Time.passed b.clock = c := by rw [h.clock, Time.passed_millis]
  have hasleep : ¬ d ≤ Time.passed b.clock := by
    rw [hnow]
    exact Nat.not_le_of_lt hlt
  have hslept : b.sleepUntil (Time.millis d) = passPlan d b.happen.plan b.happen := by
    rw [Bench.sleepUntil, Time.begun_millis, if_neg hasleep, giveWay, beginAll_eq h.unbegun]
  obtain ⟨given, hgiven⟩ := happen_eq b
  obtain ⟨clock, passed, hpassed⟩ := passPlan_eq d b.happen.plan b.happen
  have hclock : (passPlan d b.happen.plan b.happen).clock = Time.millis d := by
    apply clock_passPlan _ _ (Nat.le_of_lt hlt)
    rw [hgiven]
    exact h.clock
  -- what was due before this millisecond is due by now, and what is due by now is due before then
  have hby : ∀ entry : Nat × Happening ω,
      decide (entry.1 < c) = true → decide (entry.1 ≤ c) = true := by
    intro entry hearly
    exact decide_eq_true (Nat.le_of_lt (of_decide_eq_true hearly))
  have hthen : ∀ entry : Nat × Happening ω,
      decide (entry.1 ≤ c) = true → decide (entry.1 < d) = true := by
    intro entry hdue
    exact decide_eq_true (Nat.lt_of_le_of_lt (of_decide_eq_true hdue) hlt)
  rw [hslept]
  refine ⟨hclock, ?_, ?_, ?_⟩
  · rw [hpassed, hgiven]
    exact h.unbegun
  · rw [hpassed, hgiven, hnow, h.plan]
    simp only [dropWhile_dropWhile hby, dropWhile_dropWhile hthen]
  · rw [hpassed, hgiven, hnow, h.outside, h.plan]
    simp only [metIn, afterAll_takeWhile hby, dropWhile_dropWhile hby, afterAll_takeWhile hthen]

end Bench

/-- What shows of the scene on a bench while the file of the scene is waited for. -/
structure Scene.ShowsFile (planned : List (Nat × Happening Scene)) (scene : Scene)
    (x : Watched (Bench Scene)) (v : Looks) : Prop where
  comeTo : ∃ c, v.clock = Time.millis c ∧ Bench.ComeTo planned scene c x.state
  looks : x.looks = v.made

/-- An action that comes to a millisecond leaves the looks as they were. -/
theorem Scene.ShowsFile.carry {planned : List (Nat × Happening Scene)} {scene : Scene}
    {x : Watched (Bench Scene)} {v : Looks} (shows : Scene.ShowsFile planned scene x v)
    {α : Type} (act : StateM (Bench Scene) α) {d : Nat}
    (hcome : Bench.ComeTo planned scene d (act x.state).2) :
    Scene.ShowsFile planned scene (Watched.carry act x).2 { v with clock := Time.millis d } :=
  ⟨⟨d, rfl, hcome⟩, shows.looks⟩

/-- On a bench the file of the scene comes and goes by the plan. -/
theorem Scene.fileWatch (planned : List (Nat × Happening Scene)) (scene : Scene) (path : String) :
    FileWatch (Scene.world.over Watched.carry) ((Scene.paramFile path).watched (·.clock))
      Time.IsWhole (fun t => (Bench.metIn planned scene (Time.passed t)).file.isThere)
      (Scene.ShowsFile planned scene) where
  now {x v} shows := by
    obtain ⟨c, hc, hcome⟩ := shows.comeTo
    exact ⟨hcome.clock.trans hc.symm, shows⟩
  look {x v} shows := by
    obtain ⟨c, hc, hcome⟩ := shows.comeTo
    constructor
    · show x.state.outside.file.isThere = _
      rw [hcome.outside, hc, Time.passed_millis]
    · refine ⟨⟨c, hc, hcome⟩, ?_⟩
      show x.looks ++ [x.state.clock] = v.made ++ [v.clock]
      rw [shows.looks, hcome.clock, hc]
  sleep {x v} t shows hlt hexact := by
    obtain ⟨c, hc, hcome⟩ := shows.comeTo
    obtain ⟨d, rfl⟩ := hexact
    rw [hc, Time.millis_lt] at hlt
    exact shows.carry _ (hcome.sleepUntil hlt)

end PacedImages
