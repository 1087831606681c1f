import Mathlib.Logic.Relation
import PacedImages.Proofs.Image.Payload
import PacedImages.Proofs.Messaging.Session
import PacedImages.Proofs.Publisher.Loading
import PacedImages.Proofs.Publisher.Settings
import PacedImages.Proofs.Publisher.Steps
import PacedImages.Proofs.Time.Handles

/-!
# What creating a publisher leaves behind

A publisher that could not be created leaves nothing behind but the request for shutdown, and the
channel of its topic where memory for the payload was all that was missing. One that was created has
armed its start delay and nothing else. Others may do what they like while the parameter source is
waited for; from then on the creation has the thread to itself. The queue is passed along by value
in `create`; here it is changed in place, so that a failure could leave it changed.
-/

namespace PacedImages

/-- What a publisher shares with others, and the time as it was read last. -/
structure Shared where
  bus : Bus
  metrics : Metrics
  /-- Whether shutdown is requested. -/
  stopped : Bool
  read : Instant

/-- A world with a bus: `shows b v` says that its state `b` shows `v`. Nobody else gets the thread
while one of these actions is taken. -/
structure World.Shares {β : Type} (w : World (StateM β)) (shows : β → Shared → Prop) : Prop where
  now {b v} : shows b v →
    v.read ≤ (w.now b).1 ∧ shows (w.now b).2 { v with read := (w.now b).1 }
  isShutdown {b v} : shows b v → shows (w.isShutdown b).2 v
  requestShutdown {b v} : shows b v → shows (w.requestShutdown b).2 { v with stopped := true }
  reserve {b v} (size : Nat) : shows b v → shows (w.reserve size b).2 v
  drawKey {b v} : shows b v → shows (w.drawKey b).2 v
  count {b v} (change : Metrics → Metrics) : shows b v →
    shows (w.count change b).2 { v with metrics := change v.metrics }
  note {b v} (entry : LogEntry) : shows b v → shows (w.note entry b).2 v
  advertise {b v} (subject : String) (depth : Nat) : shows b v →
    match v.bus.advertise? subject depth with
    | some bus => (w.advertise subject depth b).1 = .ok () ∧
      shows (w.advertise subject depth b).2 { v with bus }
    | none => (w.advertise subject depth b).1 = .error .crash

/-- Whatever else a source does, what the others see changes by steps of theirs alone. -/
structure Source.WaitsAmid {β : Type} (source : Source (StateM β)) (shows : β → Shared → Prop)
    (others : Shared → Shared → Prop) : Prop where
  wait {b v} (timeout : Duration) : shows b v →
    ∃ v', Relation.ReflTransGen others v v' ∧ shows (source.wait timeout b).2 v'
  get {b v} (names : List String) : shows b v →
    ∃ v', Relation.ReflTransGen others v v' ∧ shows (source.get names b).2 v'

namespace TimerQueue

variable {q : TimerQueue}

theorem size_arm (hunused : q.timers[q.nextHandle]? = none) (kind : TimerKind)
    (deadline : Instant) : (q.arm kind deadline).2.size = q.size + 1 := by
  have hmissing : ¬ q.timers.contains q.nextHandle = true := by
    rw [Std.ExtTreeMap.contains_eq_isSome_getElem?, hunused]
    exact Bool.false_ne_true
  show (q.timers.insert _ _).size = q.timers.size + 1
  rw [Std.ExtTreeMap.size_insert]
  exact if_neg hmissing

end TimerQueue

/-! ## Loading amid others -/

namespace Settings

variable {β : Type} {w : World (StateM β)} {source : Source (StateM β)} {shows : β → Shared → Prop}
  {others : Shared → Shared → Prop} {b : β} {v : Shared}

theorem ask_amid (shares : w.Shares shows) (amid : source.WaitsAmid shows others)
    (policy : RetryPolicy) (node : String) (hb : shows b v) :
    ∃ v', Relation.ReflTransGen others v v' ∧ shows (ask w source policy node b).2 v' := by
  obtain ⟨v₁, hwaited, hb₁⟩ := amid.wait policy.wait hb
  obtain ⟨v₂, hgot, hb₂⟩ := amid.get names hb₁
  rw [ask_eq]
  cases hreached : (source.wait policy.wait b).1 with
  | false =>
    simp only [hreached, Bool.false_eq_true, if_false]
    exact ⟨v₁, hwaited, hb₁⟩
  | true =>
    refine ⟨v₂, hwaited.trans hgot, ?_⟩
    simp only [hreached, if_true]
    split
    · exact shares.note _ hb₂
    · exact hb₂

theorem shows_accept (shares : w.Shares shows) (node : String)
    (answer : Except ParamError Parameters) (hb : shows b v) :
    shows (accept w node answer b).2 v := by
  cases answer with
  | error e => exact hb
  | ok p =>
    rw [accept_ok]
    rcases ofParameters p with e | s
    · exact hb
    · exact shares.note _ hb

/-- While settings are loaded only others change what they see. -/
theorem loadFrom_amid (shares : w.Shares shows) (amid : source.WaitsAmid shows others)
    (policy : RetryPolicy) (node : String) (fuel : Nat) (attempts : UInt32) (hb : shows b v) :
    ∃ v', Relation.ReflTransGen others v v' ∧
      shows (loadFrom w source policy node fuel attempts b).2 v' := by
  induction fuel generalizing attempts b v with
  | zero => exact ⟨v, .refl, hb⟩
  | succ fuel ih =>
    obtain ⟨v₁, hasked, hb₁⟩ := ask_amid shares amid policy node hb
    rw [loadFrom_succ]
    rcases hanswer : ask w source policy node b with ⟨answer | _, b₁⟩ <;> rw [hanswer] at hb₁
    · have hstopped := shares.isShutdown hb₁
      simp only
      split
      · exact ⟨v₁, hasked, shares.note _ hstopped⟩
      · split
        · exact ⟨v₁, hasked, shares.note _ hstopped⟩
        · obtain ⟨v₂, hrest, hb₂⟩ := ih (attempts + 1) (shares.note _ hstopped)
          exact ⟨v₂, hasked.trans hrest, hb₂⟩
    · exact ⟨v₁, hasked, shows_accept shares node _ hb₁⟩

end Settings

namespace Publisher

/-! ## The queue in place -/

section InPlace

variable {m : Type → Type} [Monad m]

/-- `start` with the queue changed in place. -/
def startInPlace (w : World m) (name topic : String) (settings : Settings) (depth : Nat)
    (book : SubjectBook) : ExceptT Halt (StateT TimerQueue m) Publisher := do
  orFail (settings.validate.mapError .invalidSettings)
  let outlet ← ExceptT.mk (StateT.lift (register w book topic depth).run)
  let size ← orFail (settings.payloadSize.mapError .invalidSettings)
  let isGranted ← w.reserve size
  let drawn ← w.drawKey
  let payload ← orFail ((Payload.generate size settings.seed drawn isGranted).mapError
    fun fault => .invalidSettings (.noMemory size fault))
  w.note ⟨.info, .publisher, "generated payload",
    [("publisher", .text name), ("payload_bytes", .number size), ("elapsed_secs", .real 0.0)]⟩
  w.count (·.touch name)
  let now ← w.now
  let delayTimer ← modifyGet (·.scheduleOnce now settings.startDelay)
  w.note ⟨.info, .publisher, "waiting before first publish",
    [("publisher", .text name), ("topic", .text topic), ("subject", .text outlet.subject),
      ("delay_ms", .number (settings.startDelay / Time.nanosPerMilli))]⟩
  return launched name settings outlet payload delayTimer

/-- `create` with the queue changed in place. -/
def createInPlace (w : World m) (name topic : String) (source : Source m) (options : Options)
    (book : SubjectBook) (fuel : Nat) : StateT TimerQueue m (Except Halt Publisher) := do
  let result ← match ← StateT.lift (Settings.load w source options.retry name fuel) with
    | none => pure (.error .unfinished)
    | some (.error e) => pure (.error (.failed e))
    | some (.ok settings) => (startInPlace w name topic settings options.depth book).run
  if let .error (.failed e) := result then
    w.note ⟨.error, .publisher, "failed to start publisher",
      [("publisher", .text name), ("error", .words e.message)]⟩
    w.requestShutdown
  return result

end InPlace

variable {β : Type} {w : World (StateM β)} {q : TimerQueue} {b : β}

/-- The outcome of a step as a step with the queue in place would give it, a failure leaving the
queue as it was. -/
def inPlace (q : TimerQueue) (r : Except Halt (Publisher × TimerQueue)) :
    Except Halt Publisher × TimerQueue :=
  match r with
  | .ok (p, q') => (.ok p, q')
  | .error halt => (.error halt, q)

/-- What does not have the queue at hand leaves it as it is. -/
theorem lift_bind_inPlace {α γ : Type} (x : StateM β α)
    (f : α → StateT TimerQueue (StateM β) γ) :
    (StateT.lift x >>= f) q b = f (x b).1 q (x b).2 := rfl

theorem run_lift_bind_inPlace {α γ : Type} (x : ExceptT Halt (StateM β) α)
    (f : α → ExceptT Halt (StateT TimerQueue (StateM β)) γ) :
    (ExceptT.mk (StateT.lift x.run) >>= f).run q b =
      match x.run b with
      | (.error halt, b) => ((.error halt, q), b)
      | (.ok a, b) => (f a).run q b := by
  rw [ExceptT.run_bind, ExceptT.run_mk, lift_bind_inPlace]
  rcases x.run b with ⟨halt | a, b⟩ <;> rfl

theorem orFail_ok_bind_inPlace {ε α γ : Type} (failure : ε → WorkerError) (value : α)
    (rest : α → ExceptT Halt (StateT TimerQueue (StateM β)) γ) :
    (orFail ((Except.ok value).mapError failure) >>= rest) = rest value := rfl

theorem run_act_bind_inPlace {α γ : Type} (x : StateM β α)
    (f : α → ExceptT Halt (StateT TimerQueue (StateM β)) γ) :
    ((liftM x : ExceptT Halt (StateT TimerQueue (StateM β)) α) >>= f).run q b =
      (f (x b).1).run q (x b).2 := rfl

theorem startInPlace_eq (name topic : String) (settings : Settings) (depth : Nat)
    (book : SubjectBook) :
    (startInPlace w name topic settings depth book).run q b =
      let started := (start w name topic settings depth book q).run b
      (inPlace q started.1, started.2) := by
  rw [start_eq]
  unfold startInPlace
  cases settings.validate with
  | error fault => rfl
  | ok u =>
    refine (run_lift_bind_inPlace (register w book topic depth) _).trans ?_
    rcases (register w book topic depth).run b with ⟨halt | outlet, b⟩
    · rfl
    · cases settings.payloadSize with
      | error fault => rfl
      | ok size =>
        simp only [orFail_ok_bind_inPlace, run_act_bind_inPlace]
        rcases w.reserve size b with ⟨isGranted, b⟩
        simp only
        rcases w.drawKey b with ⟨drawn, b⟩
        cases Payload.generate size settings.seed drawn isGranted <;> rfl

/-- What becomes of the world when a publisher could not be created. -/
def giveUp (w : World (StateM β)) (name : String) (e : WorkerError) (b : β) : β :=
  (w.requestShutdown (w.note ⟨.error, .publisher, "failed to start publisher",
    [("publisher", .text name), ("error", .words e.message)]⟩ b).2).2

theorem create_eq (name topic : String) (source : Source (StateM β)) (options : Options)
    (book : SubjectBook) (fuel : Nat) :
    create w name topic source options book q fuel b =
      match Settings.load w source options.retry name fuel b with
      | (none, b) => (.error .unfinished, b)
      | (some (.error e), b) => (.error (.failed e), giveUp w name e b)
      | (some (.ok settings), b) =>
        match (start w name topic settings options.depth book q).run b with
        | (.error (.failed e), b) => (.error (.failed e), giveUp w name e b)
        | (started, b) => (started, b) := by
  unfold create
  rw [bind_apply]
  rcases Settings.load w source options.retry name fuel b with ⟨_ | e | settings, b⟩
  · rfl
  · rfl
  · simp only [bind_apply]
    rcases (start w name topic settings options.depth book q).run b with
      ⟨(e | _ | _) | started, b⟩ <;> rfl

theorem bind_apply_inPlace {α γ : Type} (x : StateT TimerQueue (StateM β) α)
    (f : α → StateT TimerQueue (StateM β) γ) :
    (x >>= f) q b = f (x q b).1.1 (x q b).1.2 (x q b).2 := rfl

theorem createInPlace_eq (name topic : String) (source : Source (StateM β)) (options : Options)
    (book : SubjectBook) (fuel : Nat) :
    createInPlace w name topic source options book fuel q b =
      let created := create w name topic source options book q fuel b
      (inPlace q created.1, created.2) := by
  rw [create_eq]
  unfold createInPlace
  rw [lift_bind_inPlace]
  rcases Settings.load w source options.retry name fuel b with ⟨_ | e | settings, b⟩
  · rfl
  · rfl
  · simp only [bind_apply_inPlace, startInPlace_eq]
    rcases (start w name topic settings options.depth book q).run b with
      ⟨(e | _ | _) | ⟨p, q'⟩, b'⟩ <;> rfl

/-! ## What is left behind -/

section

variable {source : Source (StateM β)} {shows : β → Shared → Prop} {others : Shared → Shared → Prop}
  {v : Shared} {name topic : String} {settings : Settings} {depth : Nat} {book : SubjectBook}

/-- A failure `e` changes nothing that others see, except that it may leave the new channel of the
topic if there was no memory for the payload. -/
inductive Spares (book : SubjectBook) (topic : String) (depth : Nat) (e : WorkerError)
    (v : Shared) : Shared → Prop where
  | untouched : Spares book topic depth e v v
  | opened (subject : String) (size : Nat) (fault : Payload.AllocationFault) :
    e = .invalidSettings (.noMemory size fault) → (book.subject topic).1 = .ok subject →
    v.bus.channels[subject]? = none →
    Spares book topic depth e v
      { v with bus := v.bus.setChannel subject ⟨(max depth 1).nextPowerOfTwo, 0, [], 0⟩ }

theorem shows_register (shares : w.Shares shows) (book : SubjectBook) (topic : String) (depth : Nat)
    (hb : shows b v) :
    match (register w book topic depth).run b with
    | (.error (.failed _), b') => shows b' v
    | (.error _, _) => True
    | (.ok outlet, b') => (book.subject topic).1 = .ok outlet.subject ∧
      ∃ bus, v.bus.advertise? outlet.subject depth = some bus ∧ shows b' { v with bus } := by
  rw [register_eq]
  rcases (book.subject topic).1 with e | subject
  · exact hb
  · have hadvertise := shares.advertise subject depth hb
    cases hbus : v.bus.advertise? subject depth with
    | none =>
      rw [hbus] at hadvertise
      have hanswer : w.advertise subject depth b = (.error .crash, _) := Prod.ext hadvertise rfl
      simp only
      rw [hanswer]
      trivial
    | some bus =>
      rw [hbus] at hadvertise
      obtain ⟨haccepted, hb₁⟩ := hadvertise
      have hanswer : w.advertise subject depth b = (.ok (), _) := Prod.ext haccepted rfl
      simp only
      rw [hanswer]
      exact ⟨rfl, bus, hbus, shares.note _ hb₁⟩

/-- A start that fails has not touched what others see. -/
theorem start_spares (shares : w.Shares shows) (hb : shows b v) {e : WorkerError} {b' : β}
    (hfailed : (start w name topic settings depth book q).run b = (.error (.failed e), b')) :
    ∃ v', shows b' v' ∧ Spares book topic depth e v v' := by
  rw [start_eq] at hfailed
  cases hvalid : settings.validate with
  | error fault =>
    rw [hvalid] at hfailed
    cases hfailed
    exact ⟨v, hb, .untouched⟩
  | ok u =>
    rw [hvalid] at hfailed
    have hregister := shows_register shares book topic depth hb
    rcases hregistered : (register w book topic depth).run b with ⟨halt | outlet, b₁⟩ <;>
      rw [hregistered] at hregister hfailed
    · cases hfailed
      exact ⟨v, hregister, .untouched⟩
    · obtain ⟨hsubject, bus, hbus, hb₁⟩ := hregister
      -- Valid settings have a size, so only the memory can be missing now.
      obtain ⟨size, hsize⟩ : ∃ size, settings.payloadSize = .ok size :=
        ⟨_, Settings.payloadSize_of_le (Settings.validate_eq_ok_iff.mp hvalid).2⟩
      rw [hsize] at hfailed
      simp only at hfailed
      have hdrawn := shares.drawKey (shares.reserve size hb₁)
      rcases hpayload : Payload.generate size settings.seed
          (w.drawKey (w.reserve size b₁).2).1 (w.reserve size b₁).1 with fault | payload <;>
        rw [hpayload] at hfailed
      · cases hfailed
        refine ⟨_, hdrawn, ?_⟩
        rcases Bus.advertise?_cases hbus with ⟨-, rfl⟩ | ⟨hnew, rfl⟩
        · exact .untouched
        · exact .opened _ _ _ rfl hsubject hnew
      · cases hfailed

/-- A publisher `p` that was created has armed its start delay, from the instant read last, and
shows in the metrics; its topic has a channel. -/
structure Launches (name : String) (v v' : Shared) (q q' : TimerQueue) (p : Publisher) : Prop where
  stopped : v'.stopped = v.stopped
  read : v.read ≤ v'.read
  metrics : v'.metrics = v.metrics.touch name
  bus : v.bus.advertise? p.outlet.subject p.outlet.depth = some v'.bus
  phase : p.phase = .delaying
  published : p.published = 0
  delayTimer : p.delayTimer = some q.nextHandle
  publishTimer : p.publishTimer = none
  unused : q.timers[q.nextHandle]? = none
  timers (h : Handle) : q'.timers[h]? =
    if q.nextHandle = h then some ⟨.once, v'.read + p.settings.startDelay⟩ else q.timers[h]?
  size : q'.size = q.size + 1
  payload : p.payload.size = 4 * (p.settings.dimension.toNat * p.settings.dimension.toNat)
  valid : p.settings.validate = .ok ()

theorem start_launches (shares : w.Shares shows) (reachable : q.Reachable) (hb : shows b v)
    {p : Publisher} {q' : TimerQueue} {b' : β}
    (hstarted : (start w name topic settings depth book q).run b = (.ok (p, q'), b')) :
    ∃ v', shows b' v' ∧ Launches name v v' q q' p := by
  obtain ⟨hvalid, subject, size, payload, hsubject, haccepted, hsize, hpayload, hlaunched⟩ :=
    start_ok w p q b hstarted
  have hunused := reachable.coherent.unused_nextHandle
  have hadvertise := shares.advertise subject depth hb
  cases hbus : v.bus.advertise? subject depth with
  | none =>
    rw [hbus, haccepted] at hadvertise
    cases hadvertise
  | some bus =>
    rw [hbus] at hadvertise
    have hnoted := shares.note ⟨.info, .publisher, "generated payload",
        [("publisher", .text name), ("payload_bytes", .number size), ("elapsed_secs", .real 0.0)]⟩
      (shares.drawKey (shares.reserve size
        (shares.note (advertisedEntry topic subject depth) hadvertise.2)))
    obtain ⟨hle, hread⟩ := shares.now (shares.count (·.touch name) hnoted)
    obtain ⟨hpair, rfl⟩ := Prod.mk.inj hlaunched
    obtain ⟨rfl, rfl⟩ := Prod.mk.inj hpair
    have hbytes : payload.size = 4 * (settings.dimension.toNat * settings.dimension.toNat) := by
      rw [Settings.payloadSize_of_le (Settings.validate_eq_ok_iff.mp hvalid).2] at hsize
      rw [Payload.size_of_generate hpayload, ← Except.ok.inj hsize, Nat.mul_comm]
    exact ⟨_, shares.note _ hread,
      { stopped := rfl
        read := hle
        metrics := rfl
        bus := hbus
        phase := rfl
        published := rfl
        delayTimer := rfl
        publishTimer := rfl
        unused := hunused
        timers h := TimerQueue.getElem?_arm .once _
        size := TimerQueue.size_arm hunused .once _
        payload := hbytes
        valid := hvalid }⟩

theorem shows_giveUp (shares : w.Shares shows) (name : String) (e : WorkerError) (hb : shows b v) :
    shows (giveUp w name e b) { v with stopped := true } :=
  shares.requestShutdown (shares.note _ hb)

/-- How a creation ends, from what the others have left when the settings are there. -/
theorem create_ends (shares : w.Shares shows) (amid : source.WaitsAmid shows others)
    (name topic : String) (options : Options) (book : SubjectBook) (fuel : Nat)
    (reachable : q.Reachable) (hb : shows b v) :
    ∃ v₁, Relation.ReflTransGen others v v₁ ∧
      match create w name topic source options book q fuel b with
      | (.error (.failed e), b') => ∃ v₂, Spares book topic options.depth e v₁ v₂ ∧
        shows b' { v₂ with stopped := true }
      | (.error _, _) => True
      | (.ok (p, q'), b') => ∃ v', shows b' v' ∧ Launches name v₁ v' q q' p := by
  obtain ⟨v₁, hothers, hb₁⟩ := Settings.loadFrom_amid shares amid options.retry name fuel 0 hb
  refine ⟨v₁, hothers, ?_⟩
  rw [create_eq, Settings.load]
  rcases hloaded : Settings.loadFrom w source options.retry name fuel 0 b with
    ⟨_ | e | settings, b₁⟩ <;> rw [hloaded] at hb₁
  · trivial
  · exact ⟨v₁, .untouched, shows_giveUp shares name e hb₁⟩
  · simp only
    rcases hstart : (start w name topic settings options.depth book q).run b₁ with
      ⟨(e | _ | _) | ⟨p, q'⟩, b₂⟩
    · obtain ⟨v₂, hb₂, spares⟩ := start_spares shares hb₁ hstart
      exact ⟨v₂, spares, shows_giveUp shares name e hb₂⟩
    · trivial
    · trivial
    · exact start_launches shares reachable hb₁ hstart

/-- Whatever the source does, a creation that fails asks for shutdown and leaves all else as it is,
the queue included, but for a channel of the topic that may be new if there was no memory for the
payload. One that succeeds does not ask for shutdown, and arms one timer. No size is asked for that
valid settings do not have. -/
theorem create_succeeds_or_spares (shares : w.Shares shows) (amid : source.WaitsAmid shows others)
    (name topic : String) (options : Options) (book : SubjectBook) (fuel : Nat)
    (reachable : q.Reachable) (hb : shows b v) :
    let created := createInPlace w name topic source options book fuel q b
    let made := create w name topic source options book q fuel b
    created = (inPlace q made.1, made.2) ∧
      (∀ s : Settings, s.validate = .ok () →
        s.payloadSize = .ok (4 * (s.dimension.toNat * s.dimension.toNat))) ∧
      ∃ v₁, Relation.ReflTransGen others v v₁ ∧
        (∀ e, created.1.1 = .error (.failed e) → created.1.2 = q ∧
          ∃ v₂, Spares book topic options.depth e v₁ v₂ ∧
            shows created.2 { v₂ with stopped := true }) ∧
        (∀ p, created.1.1 = .ok p →
          ∃ v', shows created.2 v' ∧ Launches name v₁ v' q created.1.2 p) := by
  intro created made
  have hcreated : created = (inPlace q made.1, made.2) :=
    createInPlace_eq name topic source options book fuel
  refine ⟨hcreated, ?_, ?_⟩
  · intro s hvalid
    rw [Settings.payloadSize_of_le (Settings.validate_eq_ok_iff.mp hvalid).2, Nat.mul_comm]
  · obtain ⟨v₁, hothers, hends⟩ :=
      create_ends shares amid name topic options book fuel reachable hb
    refine ⟨v₁, hothers, ?_⟩
    rw [show create w name topic source options book q fuel b = made from rfl] at hends
    rw [hcreated]
    clear_value created made
    rcases made with ⟨(e | _ | _) | ⟨p, q'⟩, b'⟩
    · constructor
      · intro e' he
        cases he
        exact ⟨rfl, hends⟩
      · intro p hp
        cases hp
    · constructor <;> intro _ h <;> cases h
    · constructor <;> intro _ h <;> cases h
    · constructor
      · intro e he
        cases he
      · intro p' hp
        cases hp
        exact hends

end

end Publisher

/-! ## In a scene -/

namespace Scene

/-- A scene on its bus, with nothing planned, shows its bus, its metrics and the request. -/
structure Shows (b : Bench Scene) (v : Shared) : Prop where
  script : b.outside.script = none
  unbegun : b.unbegun = []
  plan : b.plan = []
  bus : b.outside.bus = v.bus
  metrics : b.metrics = v.metrics
  stopped : b.shutdown = v.stopped
  read : v.read ≤ b.clock

theorem shares : world.Shares Shows where
  now h := ⟨h.read, { h with read := Nat.le_refl _ }⟩
  isShutdown h := h
  requestShutdown h := { h with stopped := rfl }
  reserve size h := { h with }
  drawKey h := { h with }
  count change h := { h with metrics := congrArg change h.metrics }
  note entry h := { h with }
  advertise {b v} subject depth h := by
    have hworld : world.advertise subject depth b =
        ((Scene.advertise subject depth b.outside).1,
          { b with outside := (Scene.advertise subject depth b.outside).2 }) := rfl
    rw [hworld]
    simp only [Scene.advertise, h.script, h.bus]
    cases v.bus.advertise? subject depth with
    | none => rfl
    | some bus => exact ⟨rfl, { h with script := rfl, bus := rfl }⟩

theorem shows_moveTo {b : Bench Scene} {v : Shared} (milli : Nat) (h : Shows b v) :
    Shows { b.moveTo milli with plan := [] } v := by
  have hle := Bench.le_moveTo milli b
  -- Taken apart, the benches are compared field by field, and never the clocks by counting.
  cases b
  exact ⟨h.script, h.unbegun, rfl, h.bus, h.metrics, h.stopped, Nat.le_trans h.read hle⟩

/-- With nothing planned a sleep only takes time. -/
theorem shows_sleepUntil {b : Bench Scene} {v : Shared} (t : Instant) (h : Shows b v) :
    Shows (b.sleepUntil t) v := by
  unfold Bench.sleepUntil
  split
  · exact h
  · have hgiven : b.giveWay = b := by
      obtain ⟨clock, unbegun, plan, shutdown, metrics, log, outside⟩ := b
      obtain rfl : unbegun = [] := h.unbegun
      obtain rfl : plan = [] := h.plan
      rfl
    simp only [hgiven, h.plan, Bench.passPlan]
    exact shows_moveTo (Time.begun t) h

theorem wait_memorySource (timeout : Duration) (b : Bench Scene) :
    (memorySource.wait timeout b).2 =
      if b.outside.available then b else b.sleepUntil (b.clock + timeout) := by
  unfold memorySource Source.memory
  simp only
  rw [bind_apply, show (do return (← current).available : Staged Bool) b =
    (b.outside.available, b) from rfl]
  cases b.outside.available with
  | true => rfl
  | false =>
    simp only [Bool.false_eq_true, if_false]
    rw [bind_apply, bind_apply]
    generalize hslept : b.sleepUntil (b.clock + timeout) = slept
    exact hslept

theorem get_memorySource (names : List String) (b : Bench Scene) :
    (memorySource.get names b).2 = b := by
  unfold memorySource Source.memory
  simp only
  rw [bind_apply, show (do return (← current).available : Staged Bool) b =
    (b.outside.available, b) from rfl]
  cases b.outside.available <;> rfl

/-- While the parameters of a scene are waited for, nobody else acts. -/
theorem memorySource_amid : memorySource.WaitsAmid Shows fun _ _ => False where
  wait {b v} timeout h := by
    refine ⟨v, .refl, ?_⟩
    rw [wait_memorySource]
    split
    · exact h
    · exact shows_sleepUntil _ h
  get {b v} names h := ⟨v, .refl, by rwa [get_memorySource]⟩

end Scene

namespace Publisher

/-- A scene with parameters that ask for an image larger than its memory. -/
def sampleScene : Bench Scene :=
  .fresh { Scene.fresh with stored := .ofList [("dimensions", .int 16777216)] }

/-- A timer that was armed before stays the only one, and the topic keeps its channel. -/
theorem create_succeeds_or_spares_without_memory :
    let q := (TimerQueue.empty.scheduleOnce 0 (Time.millis 1)).2
    let v : Shared := ⟨.empty, .empty, false, 0⟩
    let created := createInPlace Scene.world "camera" "image" Scene.memorySource ⟨10, .standard⟩
      .plain 1 q sampleScene
    Scene.Shows sampleScene v ∧ created.1.2 = q ∧ ∃ v₂,
      Spares .plain "image" 10 (.invalidSettings (.noMemory 1125899906842624 .outOfMemory)) v v₂ ∧
      Scene.Shows created.2 { v₂ with stopped := true } ∧
      v₂.bus.channels.contains "image" = true := by
  intro q v created
  have reachable : q.Reachable := ⟨[.once 0 (Time.millis 1)], rfl⟩
  have hshows : Scene.Shows sampleScene v := ⟨rfl, rfl, rfl, rfl, rfl, rfl, Nat.le_refl 0⟩
  have hfailed : created.1.1 =
      .error (.failed (.invalidSettings (.noMemory 1125899906842624 .outOfMemory))) := by
    with_unfolding_all rfl
  obtain ⟨-, -, v₁, hothers, hspares, -⟩ :=
    create_succeeds_or_spares Scene.shares Scene.memorySource_amid "camera" "image"
      ⟨10, .standard⟩ .plain 1 reachable hshows
  obtain rfl : v₁ = v := (Relation.reflTransGen_iff_eq fun _ => id).mp hothers
  obtain ⟨hqueue, v₂, spares, hshows₂⟩ := hspares _ hfailed
  have hchannel : created.2.outside.bus.channels.contains "image" = true := by decide +kernel
  rw [hshows₂.bus] at hchannel
  exact ⟨hshows, hqueue, v₂, spares, hshows₂, hchannel⟩

end Publisher

end PacedImages
