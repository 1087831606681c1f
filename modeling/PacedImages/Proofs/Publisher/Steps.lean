import PacedImages.Proofs.Dispatch.Loop
import PacedImages.Proofs.Time.TimerQueue
import PacedImages.Proofs.WorldLaws
import PacedImages.Publisher.Basic

/-!
# The steps of a publisher

In a world whose actions change a state, every step of a publisher is an equation: which actions it
takes, in which order, and what becomes of the publisher and of the queue. What all actions do to
the state but messages and requests for shutdown, the steps do between those.
-/

namespace PacedImages.Publisher

variable {β : Type} (w : World (StateM β)) (p : Publisher) (q : TimerQueue) (b : β)

/-- A publisher as it is started. -/
def launched (name : String) (settings : Settings) (outlet : Advertisement) (payload : ByteArray)
    (delayTimer : Handle) : Publisher :=
  { name, settings, outlet, payload
    stamper := .fresh
    phase := .delaying
    published := 0
    delayTimer := some delayTimer
    publishTimer := none }

/-- What a start still does when the payload is there. -/
def launch (name topic : String) (settings : Settings) (outlet : Advertisement) (size : Nat)
    (payload : ByteArray) : (Publisher × TimerQueue) × β :=
  let noted := w.note ⟨.info, .publisher, "generated payload",
    [("publisher", .text name), ("payload_bytes", .number size), ("elapsed_secs", .real 0.0)]⟩ b
  let read := w.now (w.count (·.touch name) noted.2).2
  let armed := q.scheduleOnce read.1 settings.startDelay
  ((launched name settings outlet payload armed.1, armed.2),
    (w.note ⟨.info, .publisher, "waiting before first publish",
      [("publisher", .text name), ("topic", .text topic), ("subject", .text outlet.subject),
        ("delay_ms", .number (settings.startDelay / Time.nanosPerMilli))]⟩ read.2).2)

def advertisedEntry (topic subject : String) (depth : Nat) : LogEntry :=
  ⟨.debug, .topics, "topic advertised",
    [("topic", .text topic), ("subject", .words subject), ("queue_depth", .number depth)]⟩

theorem orFail_ok_bind {ε α γ : Type} (failure : ε → WorkerError) (value : α)
    (rest : α → ExceptT Halt (StateM β) γ) :
    (orFail ((Except.ok value).mapError failure) >>= rest) = rest value := rfl

theorem register_eq (book : SubjectBook) (topic : String) (depth : Nat) :
    (register w book topic depth).run b =
      match (book.subject topic).1 with
      | .error e => (.error (.failed (.transport e)), b)
      | .ok subject =>
        match w.advertise subject depth b with
        | (.error (.refused e), b) => (.error (.failed (.transport e)), b)
        | (.error .crash, b) => (.error .crashed, b)
        | (.ok (), b) =>
          (.ok ⟨topic, subject, depth⟩, (w.note (advertisedEntry topic subject depth) b).2) := by
  unfold register
  rcases (book.subject topic).1 with e | subject
  · rfl
  · rw [orFail_ok_bind, run_lift_bind]
    simp only
    rcases w.advertise subject depth b with ⟨(e | e) | u, b⟩ <;> rfl

theorem start_eq (name topic : String) (settings : Settings) (depth : Nat) (book : SubjectBook) :
    (start w name topic settings depth book q).run b =
      match settings.validate with
      | .error fault => (.error (.failed (.invalidSettings fault)), b)
      | .ok () =>
        match (register w book topic depth).run b with
        | (.error halt, b) => (.error halt, b)
        | (.ok outlet, b) =>
          match settings.payloadSize with
          | .error fault => (.error (.failed (.invalidSettings fault)), b)
          | .ok size =>
            let reserved := w.reserve size b
            let drawn := w.drawKey reserved.2
            match Payload.generate size settings.seed drawn.1 reserved.1 with
            | .error fault => (.error (.failed (.invalidSettings (.noMemory size fault))), drawn.2)
            | .ok payload =>
              let begun := launch w q drawn.2 name topic settings outlet size payload
              (.ok begun.1, begun.2) := by
  unfold start
  rcases settings.validate with fault | u
  · rfl
  · rw [orFail_ok_bind, run_bind_apply]
    rcases (register w book topic depth).run b with ⟨halt | outlet, b⟩
    · rfl
    · simp only
      rcases settings.payloadSize with fault | size
      · rfl
      · rw [orFail_ok_bind, run_lift_bind, run_lift_bind]
        simp only
        rcases Payload.generate size settings.seed (w.drawKey (w.reserve size b).2).1
          (w.reserve size b).1 with fault | payload <;> rfl

/-- What a start that succeeds went through. -/
theorem start_ok {name topic : String} {settings : Settings} {depth : Nat} {book : SubjectBook}
    {q₁ : TimerQueue} {b₁ : β}
    (hstart : (start w name topic settings depth book q).run b = (.ok (p, q₁), b₁)) :
    settings.validate = .ok () ∧ ∃ subject size payload,
      (book.subject topic).1 = .ok subject ∧ (w.advertise subject depth b).1 = .ok () ∧
      settings.payloadSize = .ok size ∧
      let reserved := w.reserve size
        (w.note (advertisedEntry topic subject depth) (w.advertise subject depth b).2).2
      let drawn := w.drawKey reserved.2
      Payload.generate size settings.seed drawn.1 reserved.1 = .ok payload ∧
        launch w q drawn.2 name topic settings ⟨topic, subject, depth⟩ size payload =
          ((p, q₁), b₁) := by
  rw [start_eq, register_eq] at hstart
  cases hvalid : settings.validate with
  | error fault => rw [hvalid] at hstart; cases hstart
  | ok u =>
    refine ⟨rfl, ?_⟩
    rw [hvalid] at hstart
    cases hsubject : (book.subject topic).1 with
    | error e => rw [hsubject] at hstart; cases hstart
    | ok subject =>
      rw [hsubject] at hstart
      simp only at hstart
      rcases hadv : w.advertise subject depth b with ⟨(e | e) | u, b₂⟩ <;>
        rw [hadv] at hstart
      · cases hstart
      · cases hstart
      · simp only at hstart
        cases hsize : settings.payloadSize with
        | error fault => rw [hsize] at hstart; cases hstart
        | ok size =>
          rw [hsize] at hstart
          simp only at hstart
          rcases hreserved : w.reserve size
            (w.note (advertisedEntry topic subject depth) b₂).2 with ⟨isGranted, b₃⟩
          rw [hreserved] at hstart
          simp only at hstart
          cases hpayload : Payload.generate size settings.seed (w.drawKey b₃).1 isGranted with
          | error fault => rw [hpayload] at hstart; cases hstart
          | ok payload =>
            rw [hpayload] at hstart
            refine ⟨subject, size, payload, rfl, by rw [hadv], rfl, ?_, ?_⟩
            · simp only [hadv, hreserved]
              exact hpayload
            · simp only [hadv, hreserved]
              obtain ⟨hbegun, hworld⟩ := Prod.mk.inj hstart
              exact Prod.ext (Except.ok.inj hbegun) hworld

/-- A start goes through if all of its parts do. -/
theorem exists_start (name : String) {topic subject : String} {settings : Settings}
    {depth size : Nat} {book : SubjectBook} {payload : ByteArray}
    (hvalid : settings.validate = .ok ())
    (hsubject : (book.subject topic).1 = .ok subject)
    (hadvertise : (w.advertise subject depth b).1 = .ok ())
    (hsize : settings.payloadSize = .ok size)
    (hpayload : ∀ drawn, Payload.generate size settings.seed drawn (w.reserve size
      (w.note (advertisedEntry topic subject depth) (w.advertise subject depth b).2).2).1 =
      .ok payload) :
    ∃ p q₁ b₁, (start w name topic settings depth book q).run b = (.ok (p, q₁), b₁) := by
  rw [start_eq, hvalid, register_eq, hsubject]
  rcases hadv : w.advertise subject depth b with ⟨answer, b₂⟩
  rw [hadv] at hadvertise
  simp only at hadvertise
  subst hadvertise
  simp only [hadv] at hpayload
  simp only [hadv, hsize, hpayload]
  exact ⟨_, _, _, rfl⟩

/-- A count below another does not overflow. -/
theorem toNat_succ_of_lt {a b : UInt32} (h : a < b) : (a + 1).toNat = a.toNat + 1 := by
  have hlt := UInt32.lt_iff_toNat_lt.mp h
  have hmax := b.toNat_lt
  rw [UInt32.toNat_add, UInt32.toNat_one]
  omega

theorem nextHandle_cancelTimer (timer : Option Handle) (q : TimerQueue) :
    (cancelTimer timer q).nextHandle = q.nextHandle := by
  cases timer <;> rfl

theorem getElem?_cancelTimer (timer : Option Handle) (q : TimerQueue) (h : Handle) :
    (cancelTimer timer q).timers[h]? = if timer = some h then none else q.timers[h]? := by
  cases timer with
  | none => rfl
  | some k =>
    rw [cancelTimer, TimerQueue.getElem?_cancel]
    simp only [Option.some.injEq]

theorem coherent_cancelTimer {q : TimerQueue} (c : q.Coherent) (timer : Option Handle) :
    (cancelTimer timer q).Coherent := by
  cases timer with
  | none => exact c
  | some h => exact c.cancel h

/-- A repeating timer that takes the place of another gets a new handle. -/
theorem nextHandle_relay (timer : Option Handle) (q : TimerQueue) (now : Instant)
    (period : Duration) :
    ((cancelTimer timer q).scheduleEvery now period).2.nextHandle = q.nextHandle + 1 :=
  congrArg (· + 1) (nextHandle_cancelTimer timer q)

theorem getElem?_relay (timer : Option Handle) (q : TimerQueue) (now : Instant) (period : Duration)
    (h : Handle) :
    ((cancelTimer timer q).scheduleEvery now period).2.timers[h]? =
      if q.nextHandle = h then
        some ⟨.every (max period Time.minPeriod), now + max period Time.minPeriod⟩
      else if timer = some h then none else q.timers[h]? := by
  rw [TimerQueue.scheduleEvery, TimerQueue.getElem?_arm, nextHandle_cancelTimer,
    getElem?_cancelTimer]

theorem delayElapsed_eq (h : p.phase = .delaying) :
    delayElapsed w p q b =
      let read := w.now b
      let armed := (cancelTimer p.delayTimer q).scheduleEvery read.1 p.settings.period
      (({ p with delayTimer := none, publishTimer := some armed.1, phase := .publishing }, armed.2),
        (w.note ⟨.info, .publisher, "delay finished",
          [("publisher", .words p.name),
            ("period_ms", .number (p.settings.period / Time.nanosPerMilli))]⟩ read.2).2) := by
  unfold delayElapsed
  rw [if_neg (by simp [h])]
  rfl

theorem delayElapsed_of_ne (h : p.phase ≠ .delaying) : delayElapsed w p q b = ((p, q), b) := by
  unfold delayElapsed
  rw [if_pos h]
  rfl

theorem terminate_eq (h : p.phase ≠ .terminated) :
    terminate w p q b =
      let noted := w.note ⟨.info, .publisher, "publisher terminated",
        [("publisher", .words p.name), ("count", .number p.published.toNat)]⟩ b
      (({ p with delayTimer := none, publishTimer := none, phase := .terminated },
          cancelTimer p.publishTimer (cancelTimer p.delayTimer q)),
        (w.requestShutdown noted.2).2) := by
  unfold terminate
  rw [if_neg h]
  rfl

theorem terminate_of_terminated (h : p.phase = .terminated) :
    terminate w p q b = ((p, q), b) := by
  unfold terminate
  rw [if_pos h]
  rfl

theorem tick_eq (h : p.phase = .publishing) :
    tick w p q b =
      let read := w.reading b
      let stamped := p.stamper.stamp read.1
      let image := Image.square stamped.1 p.settings.dimension p.payload
      let sent := w.publish p.outlet.subject image.data image.headers read.2
      let next := { p with stamper := stamped.2, published := p.published + 1 }
      let counted := account w next sent.1.1 sent.1.2 sent.2
      if p.settings.maxCount ≤ p.published + 1 then terminate w next q counted.2
      else ((next, q), counted.2) := by
  unfold tick
  rw [if_neg (by simp [h])]
  simp only [bind_apply]
  split <;> rfl

theorem tick_of_ne (h : p.phase ≠ .publishing) : tick w p q b = ((p, q), b) := by
  unfold tick
  rw [if_pos h]
  rfl

/-- A timer that the publisher does not wait for changes neither it nor the queue. -/
theorem onTimer_other (timer : Handle) (hd : ¬ (p.phase = .delaying ∧ p.delayTimer = some timer))
    (hp : ¬ (p.phase = .publishing ∧ p.publishTimer = some timer)) :
    onTimer w timer p q b =
      ((p, q), (w.note ⟨.debug, .publisher, "ignoring timer",
        [("publisher", .words p.name), ("timer", .words (handleText timer)),
          ("state", .words p.phase.name)]⟩ b).2) := by
  unfold onTimer
  rw [if_neg hd, if_neg hp]
  rfl

theorem onTimer_delaying {timer : Handle} (hphase : p.phase = .delaying)
    (htimer : p.delayTimer = some timer) : onTimer w timer p q = delayElapsed w p q := by
  unfold onTimer
  rw [if_pos ⟨hphase, htimer⟩]

theorem onTimer_publishing {timer : Handle} (hphase : p.phase = .publishing)
    (htimer : p.publishTimer = some timer) : onTimer w timer p q = tick w p q := by
  unfold onTimer
  rw [if_neg (by simp [hphase]), if_pos ⟨hphase, htimer⟩]

/-! ## What the steps do to the world -/

section

variable {w p q b} {R : β → β → Prop} (moves : w.Moves R)
  (trans : ∀ {b₁ b₂ b₃ : β}, R b₁ b₂ → R b₂ b₃ → R b₁ b₃)

include moves trans

theorem account_moves (result : Except TransportError Unit) (seconds : Float) :
    R b (account w p result seconds b).2 := by
  cases result with
  | ok u => exact trans (moves.count _ _) (moves.note _ _)
  | error e => exact trans (moves.count _ _) (moves.note _ _)

theorem exists_delayElapsed (h : p.phase = .delaying) :
    ∃ b', R b b' ∧ delayElapsed w p q b =
      (({ p with delayTimer := none, publishTimer := some q.nextHandle, phase := .publishing },
        ((cancelTimer p.delayTimer q).scheduleEvery (w.now b).1 p.settings.period).2), b') := by
  refine ⟨_, ?_, (delayElapsed_eq w p q b h).trans (Prod.ext (Prod.ext ?_ rfl) rfl)⟩
  · exact trans (moves.now b) (moves.note _ _)
  · rw [← nextHandle_cancelTimer p.delayTimer q]
    rfl

omit trans in
theorem exists_terminate (h : p.phase ≠ .terminated) :
    ∃ noted, R b noted ∧ terminate w p q b =
      (({ p with delayTimer := none, publishTimer := none, phase := .terminated },
        cancelTimer p.publishTimer (cancelTimer p.delayTimer q)), (w.requestShutdown noted).2) :=
  ⟨_, moves.note _ b, terminate_eq w p q b h⟩

/-- One message is handed over, and nothing else is done to the world but to end with the last. -/
theorem exists_tick (h : p.phase = .publishing) :
    ∃ stamper payload headers read counted, R b read ∧
      R (w.publish p.outlet.subject payload headers read).2 counted ∧
      tick w p q b =
        let next := { p with stamper, published := p.published + 1 }
        if p.settings.maxCount ≤ p.published + 1 then terminate w next q counted
        else ((next, q), counted) :=
  ⟨_, _, _, _, _, moves.reading b, account_moves moves trans _ _, tick_eq w p q b h⟩

/-- A start that succeeds arms the start delay, at a reading of the clock, and hands over
nothing. -/
theorem start_moves {name topic : String} {settings : Settings} {depth : Nat} {book : SubjectBook}
    {q₁ : TimerQueue} {b₁ : β}
    (hstart : (start w name topic settings depth book q).run b = (.ok (p, q₁), b₁)) :
    settings.validate = .ok () ∧
      (∃ outlet payload, p = launched name settings outlet payload q.nextHandle) ∧
      ∃ read, R b read ∧ R (w.now read).2 b₁ ∧
        q₁ = (q.arm .once ((w.now read).1 + settings.startDelay)).2 := by
  obtain ⟨hvalid, subject, size, payload, _, _, _, _, hlaunch⟩ := start_ok w p q b hstart
  obtain ⟨hbegun, rfl⟩ := Prod.mk.inj hlaunch
  obtain ⟨hp, hq₁⟩ := Prod.mk.inj hbegun
  refine ⟨hvalid, ⟨_, _, hp.symm⟩, _, ?_, moves.note _ _, hq₁.symm⟩
  apply trans (moves.advertise subject depth b)
  apply trans (moves.note _ _)
  apply trans (moves.reserve size _)
  apply trans (moves.drawKey _)
  exact trans (moves.note _ _) (moves.count _ _)

omit trans in
/-- A timer is the one that the publisher waits for, or it is taken no notice of. -/
theorem onTimer_cases (timer : Handle) :
    (p.phase = .delaying ∧ p.delayTimer = some timer ∧
      onTimer w timer p q b = delayElapsed w p q b) ∨
    (p.phase = .publishing ∧ p.publishTimer = some timer ∧
      onTimer w timer p q b = tick w p q b) ∨
    ∃ b', R b b' ∧ onTimer w timer p q b = ((p, q), b') := by
  by_cases hdelay : p.phase = .delaying ∧ p.delayTimer = some timer
  · exact Or.inl ⟨hdelay.1, hdelay.2, congrFun (onTimer_delaying w p q hdelay.1 hdelay.2) b⟩
  · by_cases hpublish : p.phase = .publishing ∧ p.publishTimer = some timer
    · exact Or.inr (Or.inl ⟨hpublish.1, hpublish.2,
        congrFun (onTimer_publishing w p q hpublish.1 hpublish.2) b⟩)
    · exact Or.inr (Or.inr ⟨_, moves.note _ b, onTimer_other w p q b timer hdelay hpublish⟩)

/-- What every action does to the world, messages and requests included, a call does. -/
theorem onTimer_related
    (publish : ∀ subject payload headers b, R b (w.publish subject payload headers b).2)
    (requestShutdown : ∀ b, R b (w.requestShutdown b).2) (timer : Handle) :
    R b (onTimer w timer p q b).2 := by
  rcases onTimer_cases (p := p) (q := q) (b := b) moves timer with
    ⟨hphase, _, hstep⟩ | ⟨hphase, _, hstep⟩ | ⟨b', hmoved, hstep⟩
  · obtain ⟨b', hmoved, helapsed⟩ := exists_delayElapsed (q := q) (b := b) moves trans hphase
    rw [hstep, helapsed]
    exact hmoved
  · obtain ⟨stamper, payload, headers, read, counted, hread, hcounted, htick⟩ :=
      exists_tick (q := q) (b := b) moves trans hphase
    have hsent : R b counted := trans hread (trans (publish _ _ _ _) hcounted)
    rw [hstep, htick]
    simp only
    split
    · obtain ⟨noted, hnoted, hend⟩ := exists_terminate (q := q) (b := counted)
        (p := { p with stamper, published := p.published + 1 }) moves (by simp [hphase])
      rw [hend]
      exact trans hsent (trans hnoted (requestShutdown noted))
    · exact hsent
  · rw [hstep]
    exact hmoved

end

end PacedImages.Publisher
