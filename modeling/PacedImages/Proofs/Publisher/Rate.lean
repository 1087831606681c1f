import PacedImages.Proofs.Dispatch.Discipline
import PacedImages.Proofs.Publisher.Schedule
import PacedImages.Proofs.Publisher.Steps

/-!
# The rate of a publisher

Sleepers may wake late and the transport may take its time; still a publisher never sends faster
than one image a pace. Its images belong to boundaries that lie whole paces after the end of the
delay: each to a boundary of its own that has passed, each to a later one than the image before, and
those that went by meanwhile are skipped. Unless somebody else asks for shutdown, all images are
sent.
-/

namespace PacedImages.Publisher

open Dispatch (Firing Kept Runs)

variable {β : Type} {w : World (StateM β)} {clock : β → Instant} {stopped : β → Bool}
  {settings : Settings} {p p' : Publisher} {q q' : TimerQueue} {x x' : Timed β}

/-! ## Attempts and their boundaries -/

/-- The attempts among firings, with the boundaries that they belong to, counted from `T`, and the
instants at which they began. The firings of timer `h` are attempts, and no others. -/
inductive Attempts (clock : β → Instant) (h : Handle) (T : Instant) (pace : Duration) :
    List (Firing (Timed β)) → List Nat → List Instant → Prop where
  | none : Attempts clock h T pace [] [] []
  | other {firings : List (Firing (Timed β))} {indices : List Nat} {starts : List Instant}
      {y : Firing (Timed β)} (attempts : Attempts clock h T pace firings indices starts)
      (other : y.handle ≠ h) (unsent : y.done.sent = y.called.sent) :
      Attempts clock h T pace (firings ++ [y]) indices starts
  | attempt {firings : List (Firing (Timed β))} {indices : List Nat} {starts : List Instant}
      {y : Firing (Timed β)} {j : Nat} {t : Instant}
      (attempts : Attempts clock h T pace firings indices starts) (own : y.handle = h)
      (boundary : y.deadline? = some (T + j * pace)) (first : 1 ≤ j)
      (later : ∀ i ∈ indices, i < j) (due : T + j * pace ≤ y.now) (read : y.now ≤ t)
      (sent : y.done.sent = y.called.sent ++ [t]) (ended : t ≤ clock y.done.state) :
      Attempts clock h T pace (firings ++ [y]) (indices ++ [j]) (starts ++ [t])

section

variable {h : Handle} {T : Instant} {interval : Duration} {firings : List (Firing (Timed β))}
  {indices : List Nat} {starts : List Instant}

theorem Attempts.increasing (attempts : Attempts clock h T interval firings indices starts) :
    indices.Pairwise (· < ·) := by
  induction attempts with
  | none => exact List.Pairwise.nil
  | other _ _ _ ih => exact ih
  | attempt _ _ _ _ later _ _ _ _ ih =>
    refine List.pairwise_append.mpr ⟨ih, List.pairwise_singleton _ _, ?_⟩
    intro i hi j hj
    exact List.mem_singleton.mp hj ▸ later i hi

theorem Attempts.length_eq (attempts : Attempts clock h T interval firings indices starts) :
    indices.length = starts.length := by
  induction attempts with
  | none => rfl
  | other _ _ _ ih => exact ih
  | attempt _ _ _ _ _ _ _ _ _ ih => simp [ih]

/-- There are no more attempts than boundaries up to the last. -/
theorem Attempts.length_lt (attempts : Attempts clock h T interval firings indices starts) :
    ∀ {j : Nat}, 1 ≤ j → (∀ i ∈ indices, i < j) → indices.length < j := by
  induction attempts with
  | none => exact fun hj _ => hj
  | other _ _ _ ih => exact ih
  | @attempt _ indices _ _ last _ _ _ _ first later _ _ _ _ ih =>
    intro j _ hbelow
    have hlast : last < j := hbelow last (by simp)
    have hlength : indices.length < last := ih first later
    rw [List.length_append, List.length_singleton]
    omega

/-- The attempt with number `k`, counted from zero, begins `k + 1` paces after `T` at the
earliest. -/
theorem Attempts.le_start (attempts : Attempts clock h T interval firings indices starts) :
    ∀ (k : Nat) (hk : k < starts.length), T + (k + 1) * interval ≤ starts[k] := by
  induction attempts with
  | none =>
    intro k hk
    cases hk
  | other _ _ _ ih => exact ih
  | @attempt _ indices starts _ j t attempts _ _ first later due read _ _ ih =>
    intro k hk
    by_cases hold : k < starts.length
    · rw [List.getElem_append_left hold]
      exact ih k hold
    · have hlength := attempts.length_lt first later
      have hlast : k = starts.length := by
        rw [List.length_append, List.length_singleton] at hk
        omega
      subst hlast
      rw [attempts.length_eq] at hlength
      rw [List.getElem_concat_length rfl]
      calc T + (starts.length + 1) * interval
          ≤ T + j * interval := Nat.add_le_add_left (Nat.mul_le_mul_right _ hlength) T
        _ ≤ t := Nat.le_trans due read

end

/-! ## Where a run is -/

/-- What every action does but a message or a request. -/
structure Passed (clock : β → Instant) (stopped : β → Bool) (x x' : Timed β) : Prop where
  sent : x'.sent = x.sent
  clock : clock x.state ≤ clock x'.state
  stays : stopped x.state = true → stopped x'.state = true

theorem Passed.trans {x'' : Timed β} (h : Passed clock stopped x x')
    (h' : Passed clock stopped x' x'') : Passed clock stopped x x'' where
  sent := h'.sent.trans h.sent
  clock := Nat.le_trans h.clock h'.clock
  stays hx := h'.stays (h.stays hx)

theorem passed_moves (time : w.KeepsTime clock) (request : w.KeepsRequest stopped) :
    (w.timed clock).Moves (Passed clock stopped) :=
  ((time.moves.and request.moves).timed clock).mono fun _ _ h => ⟨h.1, h.2.1, h.2.2⟩

/-- A tick hands over one image, now; it ends the publisher if that was the last. -/
theorem tick_sends (time : w.KeepsTime clock) (request : w.KeepsRequest stopped)
    (hphase : p.phase = .publishing) (hmore : p.published < p.settings.maxCount)
    (hticked : tick (w.timed clock) p q x = ((p', q'), x')) :
    p'.settings = p.settings ∧ p'.published.toNat = p.published.toNat + 1 ∧
      (∃ t, x'.sent = x.sent ++ [t] ∧ clock x.state ≤ t ∧ t ≤ clock x'.state) ∧
      ((p'.phase = .publishing ∧ p'.publishTimer = p.publishTimer ∧
          p'.published < p.settings.maxCount ∧ q' = q) ∨
        (p'.phase = .terminated ∧ p'.published = p.settings.maxCount ∧
          q' = cancelTimer p.publishTimer (cancelTimer p.delayTimer q) ∧
          stopped x'.state = true)) := by
  obtain ⟨stamper, payload, headers, read, counted, passed₁, passed₂, htick⟩ :=
    exists_tick (q := q) (b := x) (passed_moves time request) Passed.trans hphase
  have hsent : counted.sent = x.sent ++ [clock read.state] := by
    rw [passed₂.sent, ← passed₁.sent]
    rfl
  have hclock : clock read.state ≤ clock counted.state :=
    Nat.le_trans (time.publish p.outlet.subject payload headers read.state) passed₂.clock
  have hsucc := toNat_succ_of_lt hmore
  rw [htick] at hticked
  by_cases hlast : p.settings.maxCount ≤ p.published + 1
  · obtain ⟨noted, passed₃, hend⟩ := exists_terminate (q := q) (b := counted)
      (p := { p with stamper, published := p.published + 1 }) (passed_moves time request)
      (by simp [hphase])
    simp only [if_pos hlast, hend] at hticked
    cases hticked
    refine ⟨rfl, hsucc, ⟨clock read.state, passed₃.sent.trans hsent, passed₁.clock, ?_⟩,
      Or.inr ⟨rfl, ?_, rfl, request.requestShutdown noted.state⟩⟩
    · exact Nat.le_trans hclock (Nat.le_trans passed₃.clock (time.requestShutdown noted.state))
    · apply UInt32.le_antisymm _ hlast
      rw [UInt32.le_iff_toNat_le, hsucc]
      exact Nat.succ_le_of_lt (UInt32.lt_iff_toNat_lt.mp hmore)
  · simp only [if_neg hlast] at hticked
    cases hticked
    exact ⟨rfl, hsucc, ⟨clock read.state, hsent, passed₁.clock, hclock⟩,
      Or.inl ⟨hphase, rfl, UInt32.not_le.mp hlast, rfl⟩⟩

/-- The delay timer `h₀` is still to come, at `d₀`. -/
structure Delaying (h₀ : Handle) (d₀ : Instant) (past : List (Firing (Timed β))) (p : Publisher)
    (q : TimerQueue) (x : Timed β) : Prop where
  phase : p.phase = .delaying
  timer : p.delayTimer = some h₀
  live : q.timers[h₀]? = some ⟨.once, d₀⟩
  unsent : x.sent = []
  unfired : ∀ y ∈ past, y.handle ≠ h₀

/-- The firing that ends the delay: the clock reads `T`, and timer `h` is armed for a pace later. -/
structure Relays (w : World (StateM β)) (settings : Settings) (h₀ : Handle) (d₀ T : Instant)
    (h : Handle) (y : Firing (Timed β)) : Prop where
  delay : y.handle = h₀
  read : (w.now y.called.state).1 = T
  due : d₀ ≤ T
  armed : y.left.timers[h]? = some ⟨.every (pace settings), T + pace settings⟩
  unsent : y.done.sent = []

/-- Timer `h` waits for a boundary later than those of all attempts. What lies so far after `since`
that it does not fit into 64 bits need not be a boundary. -/
structure Publishing (settings : Settings) (since : Instant) (h : Handle) (T : Instant)
    (indices : List Nat) (p : Publisher) (q : TimerQueue) : Prop where
  phase : p.phase = .publishing
  timer : p.publishTimer = some h
  more : p.published < settings.maxCount
  next : ∃ deadline, q.timers[h]? = some ⟨.every (pace settings), deadline⟩ ∧
    ((∃ j, deadline = T + j * pace settings ∧ 1 ≤ j ∧ ∀ i ∈ indices, i < j) ∨
      since + UInt64.size ≤ deadline)

/-- All images were handed over, and timer `h` is gone. -/
structure Terminated (stopped : β → Bool) (settings : Settings) (h : Handle) (p : Publisher)
    (q : TimerQueue) (x : Timed β) : Prop where
  phase : p.phase = .terminated
  all : p.published = settings.maxCount
  gone : q.timers[h]? = none
  stopped : stopped x.state = true

/-- A run with its past firings: the delay is not over, or it ended with one of them. -/
structure Paced (w : World (StateM β)) (clock : β → Instant) (stopped : β → Bool)
    (settings : Settings) (since : Instant) (h₀ : Handle) (d₀ : Instant)
    (past : List (Firing (Timed β))) (phase : Dispatch.Phase) (p : Publisher) (q : TimerQueue)
    (x : Timed β) : Prop where
  coherent : q.Coherent
  read : ∀ now, phase = .batch now → now ≤ clock x.state
  unchanged : p.settings = settings
  counted : p.published.toNat = x.sent.length
  stage : Delaying h₀ d₀ past p q x ∨ ∃ T h before y after indices,
    past = before ++ y :: after ∧ Relays w settings h₀ d₀ T h y ∧
      Attempts clock h T (pace settings) after indices x.sent ∧
      (Publishing settings since h T indices p q ∨ Terminated stopped settings h p q x)

section

variable {h₀ h : Handle} {since d₀ T : Instant} {past : List (Firing (Timed β))}
  {indices : List Nat}

theorem Delaying.passed (delaying : Delaying h₀ d₀ past p q x) (passed : Passed clock stopped x x')
    (hsame : q'.timers[h₀]? = q.timers[h₀]?) : Delaying h₀ d₀ past p q' x' where
  phase := delaying.phase
  timer := delaying.timer
  live := hsame.trans delaying.live
  unsent := passed.sent.trans delaying.unsent
  unfired := delaying.unfired

theorem Publishing.requeue (publishing : Publishing settings since h T indices p q)
    (hsame : q'.timers[h]? = q.timers[h]?) : Publishing settings since h T indices p q' where
  phase := publishing.phase
  timer := publishing.timer
  more := publishing.more
  next := hsame ▸ publishing.next

/-- A timer that is due within range is due at a boundary. -/
theorem Publishing.boundary (publishing : Publishing settings since h T indices p q) {t : Timer}
    (ht : q.timers[h]? = some t) (hrange : t.deadline < since + UInt64.size) :
    ∃ j : Nat, t = ⟨.every (pace settings), T + j * pace settings⟩ ∧ 1 ≤ j ∧
      ∀ i ∈ indices, i < j := by
  obtain ⟨deadline, hlive, hnext⟩ := publishing.next
  obtain rfl : t = ⟨.every (pace settings), deadline⟩ := Option.some.inj (ht.symm.trans hlive)
  rcases hnext with ⟨j, rfl, hj, hlater⟩ | hfar
  · exact ⟨j, rfl, hj, hlater⟩
  · exact absurd hrange (Nat.not_lt_of_le hfar)

theorem Terminated.passed (terminated : Terminated stopped settings h p q x)
    (passed : Passed clock stopped x x') (hsame : q'.timers[h]? = q.timers[h]?) :
    Terminated stopped settings h p q' x' where
  phase := terminated.phase
  all := terminated.all
  gone := hsame.trans terminated.gone
  stopped := passed.stays terminated.stopped

end

/-- After a boundary later than those of all attempts comes one that is later still, if it is in
range. -/
theorem boundary_next {since T j interval : Nat} {indices : List Nat} (hsince : since ≤ T)
    (hj : 1 ≤ j) (hlater : ∀ i ∈ indices, i < j) (hinterval : 0 < interval) (now : Nat) :
    (∃ m, Time.nextBoundary (T + j * interval) interval now = T + m * interval ∧ 1 ≤ m ∧
        ∀ i ∈ indices ++ [j], i < m) ∨
      since + UInt64.size ≤ Time.nextBoundary (T + j * interval) interval now := by
  rcases Time.nextBoundary_cases (T + j * interval) interval now with ⟨n, hn, hnext⟩ | hnext
  · have hlt : j < j + n := Nat.lt_add_of_pos_right hn
    refine Or.inl ⟨j + n, ?_, Nat.le_trans hj (Nat.le_of_lt hlt), ?_⟩
    · rw [hnext, Nat.add_mul, Nat.add_assoc]
    · intro i hi
      rcases List.mem_append.mp hi with hi | hi
      · exact Nat.lt_trans (hlater i hi) hlt
      · exact List.mem_singleton.mp hi ▸ hlt
  · refine Or.inr ?_
    have hpos : 1 ≤ j * interval := Nat.mul_pos hj hinterval
    have hmax : UInt64.size = 1 + Time.maxOffset := rfl
    rw [hnext]
    omega

namespace Paced

variable {h₀ h k : Handle} {since d₀ T : Instant} {past : List (Firing (Timed β))}
  {phase next : Dispatch.Phase} {now : Instant} {q₁ : TimerQueue}

/-- Between the firings the loop asks the world and settles the queue. -/
theorem passed (paced : Paced w clock stopped settings since h₀ d₀ past phase p q x)
    (passed : Passed clock stopped x x') (c : q'.Coherent) (hsame : q'.timers = q.timers)
    (hread : ∀ now, next = .batch now → now ≤ clock x'.state) :
    Paced w clock stopped settings since h₀ d₀ past next p q' x' where
  coherent := c
  read := hread
  unchanged := paced.unchanged
  counted := by
    rw [passed.sent]
    exact paced.counted
  stage := by
    rcases paced.stage with
      delaying | ⟨T, h, before, y, after, indices, hpast, relays, attempts, hnow⟩
    · exact Or.inl (delaying.passed passed (by rw [hsame]))
    · refine Or.inr ⟨T, h, before, y, after, indices, hpast, relays, passed.sent ▸ attempts, ?_⟩
      rcases hnow with publishing | terminated
      · exact Or.inl (publishing.requeue (by rw [hsame]))
      · exact Or.inr (terminated.passed passed (by rw [hsame]))

/-- A timer that the publisher does not wait for is fired. -/
theorem fired_other (paced : Paced w clock stopped settings since h₀ d₀ past (.batch now) p q x)
    (hpop : q.popDue now = (some k, q₁)) (passed : Passed clock stopped x x')
    (hdelay : ¬ (p.phase = .delaying ∧ p.delayTimer = some k))
    (hpublish : ¬ (p.phase = .publishing ∧ p.publishTimer = some k)) (slept : Timed β) :
    Paced w clock stopped settings since h₀ d₀ (past ++ [⟨k, q, now, slept, x, q₁, x'⟩])
      (.batch now) p q₁ x' := by
  obtain ⟨t, ⟨ht, _⟩, _, _, htimers, c₁⟩ := paced.coherent.popDue_some hpop
  have hsame {h : Handle} (hne : h ≠ k) : q₁.timers[h]? = q.timers[h]? := by
    rw [htimers, TimerQueue.getElem?_afterFiring_of_ne now t hne]
  refine ⟨c₁, ?_, paced.unchanged, ?_, ?_⟩
  · intro now' hphase
    exact Nat.le_trans (paced.read now' hphase) passed.clock
  · rw [passed.sent]
    exact paced.counted
  · rcases paced.stage with
      delaying | ⟨T, h, before, y, after, indices, rfl, relays, attempts, hnow⟩
    · have hne : h₀ ≠ k := by
        rintro rfl
        exact hdelay ⟨delaying.phase, delaying.timer⟩
      refine Or.inl { delaying.passed passed (hsame hne) with unfired := ?_ }
      intro y hy
      rcases List.mem_append.mp hy with hy | hy
      · exact delaying.unfired y hy
      · rw [List.mem_singleton.mp hy]
        exact hne.symm
    · have hne : h ≠ k := by
        rintro rfl
        rcases hnow with publishing | terminated
        · exact hpublish ⟨publishing.phase, publishing.timer⟩
        · rw [terminated.gone] at ht
          cases ht
      refine Or.inr ⟨T, h, before, y, after ++ [⟨k, q, now, slept, x, q₁, x'⟩], indices,
        by rw [List.append_assoc, List.cons_append], relays, ?_, ?_⟩
      · rw [passed.sent]
        exact attempts.other hne.symm passed.sent
      · rcases hnow with publishing | terminated
        · exact Or.inl (publishing.requeue (hsame hne))
        · exact Or.inr (terminated.passed passed (hsame hne))

/-- The delay ends: the repeating timer is armed at a reading of the clock that is due. -/
theorem fired_delay (time : w.KeepsTime clock) (request : w.KeepsRequest stopped)
    (hmax : 0 < settings.maxCount)
    (paced : Paced w clock stopped settings since h₀ d₀ past (.batch now) p q x)
    (hpop : q.popDue now = (some k, q₁)) (hphase : p.phase = .delaying)
    (htimer : p.delayTimer = some k) (hfired : onTimer (w.timed clock) k p q₁ x = ((p', q'), x'))
    (slept : Timed β) :
    Paced w clock stopped settings since h₀ d₀ (past ++ [⟨k, q, now, slept, x, q', x'⟩])
      (.batch now) p' q' x' := by
  obtain ⟨t, ⟨ht, _⟩, hdue, _, htimers, c₁⟩ := paced.coherent.popDue_some hpop
  obtain rfl := paced.unchanged
  rcases paced.stage with delaying | ⟨T, h, before, y, after, indices, rfl, relays, attempts, hnow⟩
  · have hk : h₀ = k := Option.some.inj (delaying.timer.symm.trans htimer)
    subst hk
    have hd₀ : d₀ ≤ now := by
      rw [delaying.live] at ht
      cases ht
      exact hdue
    obtain ⟨last, passed, hstep⟩ := exists_delayElapsed (q := q₁) (b := x)
      (passed_moves time request) Passed.trans hphase
    rw [onTimer_delaying _ p q₁ hphase htimer, hstep] at hfired
    cases hfired
    have hread : now ≤ (w.now x.state).1 :=
      Nat.le_trans (paced.read now rfl) (time.now x.state).1
    have harmed := getElem?_relay p.delayTimer q₁ (w.now x.state).1 p.settings.period q₁.nextHandle
    rw [if_pos rfl] at harmed
    refine ⟨(coherent_cancelTimer c₁ _).arm _ _, ?_, rfl, ?_, Or.inr
      ⟨(w.now x.state).1, q₁.nextHandle, past, _, [], [], rfl, ?_, ?_, Or.inl ?_⟩⟩
    · intro now' hphase'
      exact Nat.le_trans (paced.read now' hphase') passed.clock
    · rw [passed.sent]
      exact paced.counted
    · exact
        { delay := rfl
          read := rfl
          due := Nat.le_trans hd₀ hread
          armed := harmed
          unsent := passed.sent.trans delaying.unsent }
    · rw [passed.sent, delaying.unsent]
      exact .none
    · refine ⟨rfl, rfl, ?_, _, harmed, Or.inl ⟨1, ?_, Nat.le_refl 1, by simp⟩⟩
      · have hnone : p.published = 0 := by
          have hcounted := paced.counted
          rw [delaying.unsent] at hcounted
          exact UInt32.toNat_inj.mp hcounted
        rw [hnone]
        exact hmax
      · rw [Nat.one_mul]
        rfl
  · rcases hnow with publishing | terminated
    · rw [publishing.phase] at hphase
      cases hphase
    · rw [terminated.phase] at hphase
      cases hphase

/-- An image is handed over: the attempt belongs to the boundary that the timer was popped at. -/
theorem fired_tick (time : w.KeepsTime clock) (request : w.KeepsRequest stopped)
    (paced : Paced w clock stopped settings since h₀ d₀ past (.batch now) p q x)
    (hpop : q.popDue now = (some k, q₁)) (hphase : p.phase = .publishing)
    (htimer : p.publishTimer = some k) (hfired : onTimer (w.timed clock) k p q₁ x = ((p', q'), x'))
    (hsince : since ≤ d₀) (hrange : clock x.state < since + UInt64.size) (slept : Timed β) :
    Paced w clock stopped settings since h₀ d₀ (past ++ [⟨k, q, now, slept, x, q', x'⟩])
      (.batch now) p' q' x' := by
  obtain ⟨t, ⟨ht, _⟩, hdue, _, htimers, c₁⟩ := paced.coherent.popDue_some hpop
  obtain rfl := paced.unchanged
  have hnow : now ≤ clock x.state := paced.read now rfl
  rcases paced.stage with delaying | ⟨T, h, before, y, after, indices, rfl, relays, attempts, hnow'⟩
  · rw [delaying.phase] at hphase
    cases hphase
  · rcases hnow' with publishing | terminated
    · have hk : h = k := Option.some.inj (publishing.timer.symm.trans htimer)
      subst hk
      obtain ⟨j, rfl, hj, hlater⟩ := publishing.boundary ht
        (Nat.lt_of_le_of_lt hdue (Nat.lt_of_le_of_lt hnow hrange))
      have hpopped : q₁.timers[h]? = some ⟨.every (pace p.settings),
          Time.nextBoundary (T + j * pace p.settings) (pace p.settings) now⟩ := by
        rw [htimers]
        exact TimerQueue.getElem?_afterFiring_every now rfl
      rw [onTimer_publishing _ p q₁ hphase htimer] at hfired
      obtain ⟨hsettings, hsucc, ⟨start, hsent, hbegun, hended⟩, hstate⟩ :=
        tick_sends time request hphase publishing.more hfired
      let fired : Firing (Timed β) := ⟨h, q, now, slept, x, q', x'⟩
      have attempts' : Attempts clock h T (pace p.settings) (after ++ [fired]) (indices ++ [j])
          x'.sent := by
        rw [hsent]
        refine attempts.attempt rfl ?_ hj hlater hdue (Nat.le_trans hnow hbegun) hsent hended
        rw [Firing.deadline?, ht]
        rfl
      have c' : q'.Coherent := by
        rcases hstate with ⟨_, _, _, rfl⟩ | ⟨_, _, rfl, _⟩
        · exact c₁
        · exact coherent_cancelTimer (coherent_cancelTimer c₁ _) _
      refine ⟨c', ?_, hsettings, ?_, Or.inr ⟨T, h, before, y, after ++ [fired], indices ++ [j],
        by rw [List.append_assoc, List.cons_append], relays, attempts', ?_⟩⟩
      · intro now' hphase'
        exact Nat.le_trans (paced.read now' hphase') (Nat.le_trans hbegun hended)
      · rw [hsucc, hsent, List.length_append, paced.counted]
        rfl
      · rcases hstate with ⟨hphase', htimer', hmore, rfl⟩ | ⟨hphase', hall, rfl, hstopped⟩
        · exact Or.inl ⟨hphase', htimer'.trans htimer, hmore, _, hpopped,
            boundary_next (Nat.le_trans hsince relays.due) hj hlater (pace_pos p.settings) now⟩
        · refine Or.inr ⟨hphase', hall, ?_, hstopped⟩
          rw [getElem?_cancelTimer, if_pos htimer]
    · rw [terminated.phase] at hphase
      cases hphase

/-- Every step of a round keeps to the boundaries. -/
theorem kept (time : w.KeepsTime clock) (request : w.KeepsRequest stopped)
    (hmax : 0 < settings.maxCount) (hsince : since ≤ d₀) :
    Kept (w.timed clock) (onTimer (w.timed clock)) (fun x => clock x.state) (since + UInt64.size)
      (Paced w clock stopped settings since h₀ d₀) where
  moves := (passed_moves time request).mono fun _ _ moved _ _ _ _ paced =>
    paced.passed moved paced.coherent rfl fun now hphase =>
      Nat.le_trans (paced.read now hphase) moved.clock
  settled {_ _ _ x} paced :=
    paced.passed ⟨rfl, Nat.le_refl _, id⟩ paced.coherent.settle rfl (by simp)
  woken {_ _ _ x} paced := by
    have moved := (passed_moves time request).now x
    apply paced.passed moved paced.coherent rfl
    rintro now ⟨⟩
    exact (time.now x.state).2
  drained {_ _ _ _ x _} paced hpop := by
    rw [(paced.coherent.popDue_none hpop).1]
    exact paced.passed ⟨rfl, Nat.le_refl _, id⟩ paced.coherent.settle rfl (by simp)
  fired {_ p _ _ q₁ _ x _ _ k} slept paced hpop hfired hrange := by
    by_cases hdelay : p.phase = .delaying ∧ p.delayTimer = some k
    · exact paced.fired_delay time request hmax hpop hdelay.1 hdelay.2 hfired slept
    · by_cases hpublish : p.phase = .publishing ∧ p.publishTimer = some k
      · exact paced.fired_tick time request hpop hpublish.1 hpublish.2 hfired hsince hrange slept
      · rw [onTimer_other _ p q₁ x k hdelay hpublish] at hfired
        cases hfired
        exact paced.fired_other hpop ((passed_moves time request).note _ x) hdelay hpublish slept

end Paced

/-- On the way nobody asked for shutdown, if nobody was going to. -/
def Unasked (stopped : β → Bool) (calm : β → Prop) (x x' : Timed β) : Prop :=
  calm x.state → calm x'.state ∧ stopped x'.state = stopped x.state

theorem Unasked.trans {calm : β → Prop} {x'' : Timed β} (h : Unasked stopped calm x x')
    (h' : Unasked stopped calm x' x'') : Unasked stopped calm x x'' := by
  intro hx
  obtain ⟨hx', hsame⟩ := h hx
  obtain ⟨hx'', hsame'⟩ := h' hx'
  exact ⟨hx'', hsame'.trans hsame⟩

theorem unasked_moves (clock : β → Instant) {calm : β → Prop}
    (unprompted : w.Unprompted stopped calm) :
    (w.timed clock).Moves (Unasked stopped calm) :=
  (unprompted.moves.timed clock).mono fun _ _ h => h.2

/-- While nobody else asks for shutdown, it is requested only by a publisher that ended. -/
theorem calm_kept {calm : β → Prop} (unprompted : w.Unprompted stopped calm) (limit : Instant) :
    Kept (w.timed clock) (onTimer (w.timed clock)) (fun x => clock x.state) limit
      fun _ _ p _ x => calm x.state ∧ (stopped x.state = true → p.phase = .terminated) where
  moves := (unprompted.moves.timed clock).mono fun _ _ h _ _ _ _ hcalm =>
    ⟨(h.2 hcalm.1).1, fun hx => hcalm.2 ((h.2 hcalm.1).2 ▸ hx)⟩
  settled hcalm := hcalm
  woken {_ _ _ x} hcalm := by
    obtain ⟨hcalm', hsame⟩ := unprompted.moves.now x.state hcalm.1
    exact ⟨hcalm', fun hx => hcalm.2 (hsame ▸ hx)⟩
  drained hcalm _ := hcalm
  fired {_ p _ _ q₁ _ x _ _ k} slept hcalm _ hfired _ := by
    have moves := unasked_moves clock unprompted
    have running {x' : Timed β} (p' : Publisher) (hphase : p.phase ≠ .terminated)
        (hmoved : Unasked stopped calm x x') :
        calm x'.state ∧ (stopped x'.state = true → p'.phase = .terminated) := by
      obtain ⟨hcalm', hsame⟩ := hmoved hcalm.1
      exact ⟨hcalm', fun hx => absurd (hcalm.2 (hsame ▸ hx)) hphase⟩
    rcases onTimer_cases (p := p) (q := q₁) (b := x) moves k with
      ⟨hphase, _, hstep⟩ | ⟨hphase, _, hstep⟩ | ⟨x', hmoved, hstep⟩
    · obtain ⟨x', hmoved, helapsed⟩ := exists_delayElapsed (q := q₁) (b := x) moves Unasked.trans
        hphase
      rw [hstep, helapsed] at hfired
      cases hfired
      exact running _ (by simp [hphase]) hmoved
    · obtain ⟨stamper, payload, headers, read, counted, hread, hcounted, htick⟩ :=
        exists_tick (q := q₁) (b := x) moves Unasked.trans hphase
      have hpublished : Unasked stopped calm read
          ((w.timed clock).publish p.outlet.subject payload headers read).2 :=
        unprompted.publish _ payload headers read.state
      have hsent := hread.trans (hpublished.trans hcounted)
      rw [hstep, htick] at hfired
      by_cases hlast : p.settings.maxCount ≤ p.published + 1
      · obtain ⟨noted, hnoted, hend⟩ := exists_terminate (q := q₁) (b := counted)
          (p := { p with stamper, published := p.published + 1 }) moves (by simp [hphase])
        simp only [if_pos hlast, hend] at hfired
        cases hfired
        exact ⟨unprompted.requestShutdown _ (hnoted (hsent hcalm.1).1).1, fun _ => rfl⟩
      · simp only [if_neg hlast] at hfired
        cases hfired
        exact running _ (by simp [hphase]) hsent
    · rw [hstep] at hfired
      cases hfired
      obtain ⟨hcalm', hsame⟩ := hmoved hcalm.1
      exact ⟨hcalm', fun hx => hcalm.2 (hsame ▸ hx)⟩

theorem onTimer_onward (time : w.KeepsTime clock) (h : Handle) (p : Publisher) (q : TimerQueue)
    (x : Timed β) : clock x.state ≤ clock (onTimer (w.timed clock) h p q x).2.state :=
  onTimer_related (R := fun x y : Timed β => clock x.state ≤ clock y.state) time.timed.moves
    Nat.le_trans time.timed.publish time.timed.requestShutdown h

/-! ## Runs come to an end -/

/-- The publisher waits for timer `h` and, after that, for so many more at most. -/
inductive Awaits (since : Instant) (h : Handle) (t : Timer) (p : Publisher) : Nat → Prop where
  | delay (phase : p.phase = .delaying) (timer : p.delayTimer = some h) (kind : t.kind = .once)
      (unsent : p.published = 0) (some : 0 < p.settings.maxCount) :
      Awaits since h t p (p.settings.maxCount.toNat + 1)
  | image {n : Nat} (phase : p.phase = .publishing) (timer : p.publishTimer = some h)
      (kind : t.kind = .every (pace p.settings)) (begun : since < t.deadline) (more : 0 < n)
      (left : p.published.toNat + n = p.settings.maxCount.toNat) : Awaits since h t p n

theorem Awaits.pos {since : Instant} {h : Handle} {t : Timer} {n : Nat}
    (awaits : Awaits since h t p n) : 0 < n := by
  cases awaits with
  | delay => exact Nat.succ_pos _
  | image _ _ _ _ more => exact more

/-- The fuel lasts for three rounds a timer that the publisher still waits for: a sleep, a firing,
and the end of the batch. -/
structure Lasts (clock : β → Instant) (since : Instant) (fuel : Nat) (phase : Dispatch.Phase)
    (p : Publisher) (q : TimerQueue) (x : Timed β) (h : Handle) (t : Timer) (n : Nat) : Prop where
  begun : since ≤ clock x.state
  sole : q.Sole h t
  awaits : Awaits since h t p n
  enough : match phase with
    | .waiting => 3 * n ≤ fuel
    | .batch now => now ≤ clock x.state ∧
      ((t.deadline ≤ now ∧ 3 * n ≤ fuel + 1) ∨ (now < t.deadline ∧ 3 * n + 1 ≤ fuel))

section

variable {fuel n : Nat} {since now : Instant} {h k : Handle} {t : Timer} {q₁ : TimerQueue}

theorem Lasts.onward {phase : Dispatch.Phase} (lasts : Lasts clock since fuel phase p q x h t n)
    (hle : clock x.state ≤ clock x'.state) : Lasts clock since fuel phase p q x' h t n where
  begun := Nat.le_trans lasts.begun hle
  sole := lasts.sole
  awaits := lasts.awaits
  enough := by
    cases phase with
    | waiting => exact lasts.enough
    | batch now => exact ⟨Nat.le_trans lasts.enough.1 hle, lasts.enough.2⟩

/-- A firing takes one of the timers that the publisher waits for. -/
theorem Lasts.fired (time : w.KeepsTime clock) (request : w.KeepsRequest stopped)
    (lasts : Lasts clock since (fuel + 1) (.batch now) p q x h t n)
    (hpop : q.popDue now = (some k, q₁))
    (hfired : onTimer (w.timed clock) k p q₁ x = ((p', q'), x')) (hgoing : stopped x'.state = false)
    (hrange : clock x.state < since + UInt64.size) :
    ∃ h' t' n', Lasts clock since fuel (.batch now) p' q' x' h' t' n' := by
  obtain ⟨hnow, ⟨hdue, hfuel⟩ | ⟨hearly, _⟩⟩ := lasts.enough
  · cases lasts.awaits with
    | delay hphase htimer hkind hnone hmax =>
      obtain ⟨kind, deadline⟩ := t
      subst hkind
      obtain ⟨q₂, hpop₂, bare⟩ := lasts.sole.popDue_once hdue
      rw [hpop₂] at hpop
      cases hpop
      obtain ⟨x₂, passed, hstep⟩ := exists_delayElapsed (q := q₁) (b := x)
        (passed_moves time request) Passed.trans hphase
      rw [onTimer_delaying _ p q₁ hphase htimer, hstep] at hfired
      cases hfired
      have hread : now ≤ (w.now x.state).1 := Nat.le_trans hnow (time.now x.state).1
      have hpace := pace_pos p.settings
      have bare' : (cancelTimer p.delayTimer q₁).Bare := by
        rw [htimer]
        exact bare.cancel h
      have sole := bare'.arm (.every (pace p.settings)) ((w.now x.state).1 + pace p.settings)
      rw [nextHandle_cancelTimer] at sole
      refine ⟨_, _, p.settings.maxCount.toNat, Nat.le_trans lasts.begun passed.clock, sole,
        .image rfl rfl rfl ?_ ?_ ?_, ?_⟩
      · have hbegun := Nat.le_trans lasts.begun (time.now x.state).1
        exact Nat.lt_of_le_of_lt hbegun (Nat.lt_add_of_pos_right hpace)
      · exact UInt32.lt_iff_toNat_lt.mp hmax
      · rw [hnone]
        exact Nat.zero_add _
      · refine ⟨Nat.le_trans hnow passed.clock, Or.inr ⟨?_, ?_⟩⟩
        · exact Nat.lt_of_le_of_lt hread (Nat.lt_add_of_pos_right hpace)
        · omega
    | image hphase htimer hkind hbegun hmore hleft =>
      obtain ⟨kind, deadline⟩ := t
      subst hkind
      obtain ⟨q₂, hpop₂, sole⟩ := lasts.sole.popDue_repeating hdue
      rw [hpop₂] at hpop
      cases hpop
      rw [onTimer_publishing _ p q₁ hphase htimer] at hfired
      have hless : p.published < p.settings.maxCount := by
        rw [UInt32.lt_iff_toNat_lt]
        omega
      obtain ⟨hsettings, hsucc, ⟨start, _, hbegin, hend⟩, hstate⟩ :=
        tick_sends time request hphase hless hfired
      rcases hstate with ⟨hphase', htimer', hless', rfl⟩ | ⟨_, _, _, hstopped⟩
      · have hnext : now < Time.nextBoundary deadline (pace p.settings) now :=
          Time.lt_nextBoundary since (pace_pos p.settings) hbegun (Nat.lt_of_le_of_lt hnow hrange)
        rw [UInt32.lt_iff_toNat_lt, hsucc] at hless'
        have hpassed := Nat.le_trans hbegin hend
        refine ⟨h, _, n - 1, Nat.le_trans lasts.begun hpassed, sole,
          .image hphase' (htimer'.trans htimer) (by rw [hsettings]) ?_ ?_ ?_,
          Nat.le_trans hnow hpassed, Or.inr ⟨hnext, ?_⟩⟩
        · exact Nat.lt_of_lt_of_le hbegun (Time.le_nextBoundary _ _ _)
        · omega
        · rw [hsettings, hsucc]
          omega
        · omega
      · rw [hgoing] at hstopped
        cases hstopped
  · rw [lasts.sole.popDue_early hearly] at hpop
    cases hpop

/-- A run with enough fuel comes to an end. -/
theorem Lasts.returns (time : w.KeepsTime clock) (request : w.KeepsRequest stopped)
    {slept : Timed β} {phase : Dispatch.Phase} {trace : List (Firing (Timed β))}
    {out : Dispatch.Ending Publisher (Timed β)}
    (runs : Runs (w.timed clock) (onTimer (w.timed clock)) fuel slept phase p q x trace out)
    (lasts : Lasts clock since fuel phase p q x h t n)
    (hrange : clock out.2.state < since + UInt64.size) :
    out.1.1 ≠ none := by
  have time' := time.timed
  have request' := request.timed clock
  induction runs generalizing h t n with
  | @outOfFuel _ _ phase =>
    have hn := lasts.awaits.pos
    have henough := lasts.enough
    cases phase with
    | waiting =>
      simp only at henough
      omega
    | batch now =>
      simp only at henough
      omega
  | stopped => exact Option.some_ne_none _
  | idle => exact Option.some_ne_none _
  | interrupted => exact Option.some_ne_none _
  | @woken fuel _ x x₁ x₂ x₃ p q q' deadline now _ _ asked next slept read rest ih =>
    obtain ⟨hnext, rfl⟩ := Prod.mk.inj next
    have hdeadline : t.deadline = deadline :=
      Option.some.inj (lasts.sole.nextDeadline.symm.trans hnext)
    have hslept := time'.sleepOrShutdown deadline x₁
    obtain ⟨hbefore, hafter⟩ := time'.now x₂
    rw [slept] at hslept
    rw [read] at hbefore hafter
    have hdue : t.deadline ≤ now := by
      rw [hdeadline]
      exact Nat.le_trans (hslept rfl) hbefore
    have hbegun : since ≤ clock x₃.state := by
      have hasked := time'.moves.isShutdown x
      have hwaited := time'.moves.sleepOrShutdown deadline x₁
      rw [asked] at hasked
      rw [slept] at hwaited
      exact Nat.le_trans lasts.begun
        (Nat.le_trans hasked (Nat.le_trans hwaited (Nat.le_trans hbefore hafter)))
    exact ih ⟨hbegun, lasts.sole.settle, lasts.awaits, hafter, Or.inl ⟨hdue, lasts.enough⟩⟩ hrange
  | @drained fuel _ x p q q' now _ _ popped rest ih =>
    obtain ⟨_, ⟨hdue, _⟩ | ⟨hearly, hfuel⟩⟩ := lasts.enough
    · have hsome := (lasts.sole.popDue_due hdue).1
      rw [popped] at hsome
      cases hsome
    · rw [lasts.sole.popDue_early hearly] at popped
      cases popped
      exact ih ⟨lasts.begun, lasts.sole.settle, lasts.awaits, Nat.le_of_succ_le_succ hfuel⟩ hrange
  | halted => exact Option.some_ne_none _
  | @fired _ _ _ x₁ _ _ _ _ _ _ _ _ _ _ popped fired asked rest ih =>
    have hend := rest.onward time' (onTimer_onward time)
    have hcalled := Dispatch.le_of_call time' (onTimer_onward time) fired asked
    have hnow := Nat.lt_of_le_of_lt (Nat.le_trans hcalled hend) hrange
    obtain ⟨h', t', n', lasts'⟩ :=
      lasts.fired time request popped fired (request'.running asked) hnow
    have hasked := time'.moves.isShutdown x₁
    rw [asked] at hasked
    exact ih (lasts'.onward hasked) hrange

end

/-! ## From the start to the end -/

/-- A publisher that was just started waits for its delay timer, armed at a reading of the clock. -/
theorem exists_armed (time : w.KeepsTime clock) (request : w.KeepsRequest stopped)
    {name topic : String} {depth : Nat} {book : SubjectBook} {q₁ : TimerQueue} {x₁ : Timed β}
    (c : q.Coherent) (hunsent : x.sent = [])
    (hstart : (start (w.timed clock) name topic settings depth book q).run x = (.ok (p, q₁), x₁)) :
    0 < settings.maxCount ∧ ∃ t₀ h₀, clock x.state ≤ t₀ ∧ t₀ ≤ clock x₁.state ∧
      p.delayTimer = some h₀ ∧ q₁.timers[h₀]? = some ⟨.once, t₀ + settings.startDelay⟩ ∧
      Paced w clock stopped settings (clock x.state) h₀ (t₀ + settings.startDelay) [] .waiting p q₁
        x₁ ∧
      ∀ fuel, q.isEmpty = true → 3 * (settings.maxCount.toNat + 1) ≤ fuel →
        Lasts clock (clock x.state) fuel .waiting p q₁ x₁ h₀ ⟨.once, t₀ + settings.startDelay⟩
          (settings.maxCount.toNat + 1) := by
  obtain ⟨hvalid, ⟨outlet, payload, rfl⟩, read, passed₁, passed₂, rfl⟩ :=
    start_moves (passed_moves time request) Passed.trans hstart
  have hmax : 0 < settings.maxCount :=
    UInt32.lt_iff_toNat_lt.mpr (Settings.validate_eq_ok_iff.mp hvalid).1
  obtain ⟨hbefore, hafter⟩ := time.now read.state
  have harmed : clock x.state ≤ (w.now read.state).1 := Nat.le_trans passed₁.clock hbefore
  have hstarted : (w.now read.state).1 ≤ clock x₁.state := Nat.le_trans hafter passed₂.clock
  have hunsent₁ : x₁.sent = [] := passed₂.sent.trans (passed₁.sent.trans hunsent)
  have hlive := q.getElem?_arm .once ((w.now read.state).1 + settings.startDelay)
    (k := q.nextHandle)
  rw [if_pos rfl] at hlive
  refine ⟨hmax, (w.now read.state).1, q.nextHandle, harmed, hstarted, rfl, hlive, ?_, ?_⟩
  · refine ⟨c.arm _ _, by simp, rfl, ?_, Or.inl ⟨rfl, rfl, hlive, hunsent₁, by simp⟩⟩
    rw [hunsent₁]
    rfl
  · intro fuel hempty hfuel
    exact
      { begun := Nat.le_trans harmed hstarted
        sole := (c.bare hempty).arm .once _
        awaits := .delay rfl rfl rfl rfl hmax
        enough := hfuel }

/-- A run that ended while only the publisher asked for shutdown has sent everything. -/
theorem Paced.all_sent {since d₀ : Instant} {h₀ : Handle} {trace : List (Firing (Timed β))}
    {last : Dispatch.Phase} {out : Dispatch.Ending Publisher (Timed β)}
    (paced : Paced w clock stopped settings since h₀ d₀ trace last out.1.2.1 out.1.2.2 out.2)
    (hown : stopped out.2.state = true → out.1.2.1.phase = .terminated)
    (htold : (out.1.1 = some .shutdown ↔ stopped out.2.state = true) ∧
      (out.1.1 = some .idle ↔ stopped out.2.state = false ∧ out.1.2.2.isEmpty = true))
    (hended : out.1.1 ≠ none) :
    out.1.1 = some .shutdown ∧ out.2.sent.length = settings.maxCount.toNat := by
  have hbusy {h : Handle} {t : Timer} (hlive : out.1.2.2.timers[h]? = some t) :
      stopped out.2.state = true := by
    rcases hout : out.1.1 with _ | _ | _
    · exact absurd hout hended
    · exact htold.1.mp hout
    · have bare := paced.coherent.bare (htold.2.mp hout).2
      rw [bare.none h] at hlive
      cases hlive
  rcases paced.stage with
    delaying | ⟨T, h, before, y, after, indices, _, _, _, publishing | terminated⟩
  · have hphase := hown (hbusy delaying.live)
    rw [delaying.phase] at hphase
    cases hphase
  · obtain ⟨deadline, hlive, _⟩ := publishing.next
    have hphase := hown (hbusy hlive)
    rw [publishing.phase] at hphase
    cases hphase
  · refine ⟨htold.1.mpr terminated.stopped, ?_⟩
    rw [← paced.counted, terminated.all]

/-- The rate of a publisher that was started with nothing sent yet, on a queue that may hold timers
of others. Its delay timer is armed at `t₀`. If it is never fired, nothing is sent. If it is, the
clock reads `T` then, at `t₀` and the start delay or later, and the publish timer is armed a pace
later; nothing was sent up to that call. From there on each firing of the publish timer is an
attempt, at a boundary of its own; the boundaries increase, and the attempts keep their distance
from `T`. Unless somebody else asks for shutdown, all images have been sent when the loop ends; and
on a queue without timers of others it does end, with three rounds for each timer that is waited
for. -/
theorem spin_keeps_rate (time : w.KeepsTime clock) (request : w.KeepsRequest stopped)
    {name topic : String} {depth : Nat} {book : SubjectBook} {q₁ : TimerQueue} {x₁ : Timed β}
    (reachable : q.Reachable) (hunsent : x.sent = [])
    (hstart : (start (w.timed clock) name topic settings depth book q).run x = (.ok (p, q₁), x₁))
    (fuel : Nat)
    (hrange : clock (Dispatch.spin (w.timed clock) (onTimer (w.timed clock)) fuel p q₁ x₁).2.state <
      clock x.state + UInt64.size) :
    let out : Dispatch.Ending Publisher (Timed β) :=
      Dispatch.spin (w.timed clock) (onTimer (w.timed clock)) fuel p q₁ x₁
    ∃ t₀ h₀ trace, clock x.state ≤ t₀ ∧ t₀ ≤ clock x₁.state ∧ p.delayTimer = some h₀ ∧
      q₁.timers[h₀]? = some ⟨.once, t₀ + settings.startDelay⟩ ∧
      Runs (w.timed clock) (onTimer (w.timed clock)) fuel x₁ .waiting p q₁ x₁ trace out ∧
      (((∀ y ∈ trace, y.handle ≠ h₀) ∧ out.2.sent = []) ∨
        ∃ T h before y after indices, trace = before ++ y :: after ∧
          Relays w settings h₀ (t₀ + settings.startDelay) T h y ∧
          Attempts clock h T (pace settings) after indices out.2.sent ∧
          indices.Pairwise (· < ·) ∧
          ∀ (k : Nat) (hk : k < out.2.sent.length),
            T + (k + 1) * pace settings ≤ out.2.sent[k]) ∧
      (∀ calm, w.Unprompted stopped calm → calm x.state → stopped x.state = false →
        out.1.1 ≠ none →
        out.1.1 = some .shutdown ∧ out.2.sent.length = settings.maxCount.toNat) ∧
      (q.isEmpty = true → 3 * (settings.maxCount.toNat + 1) ≤ fuel → out.1.1 ≠ none) := by
  intro out
  obtain ⟨hmax, t₀, h₀, harmed, hstarted, htimer, hlive, paced₁, lasts⟩ :=
    exists_armed time request reachable.coherent hunsent hstart
  obtain ⟨trace, runs⟩ : ∃ trace,
      Runs (w.timed clock) (onTimer (w.timed clock)) fuel x₁ .waiting p q₁ x₁ trace out :=
    Dispatch.exists_runs _ _ fuel x₁ .waiting p q₁ x₁
  obtain ⟨last, paced⟩ := runs.keeps time.timed (onTimer_onward time)
    (Paced.kept time request hmax (Nat.le_trans harmed (Nat.le_add_right _ _))) hrange [] paced₁
  refine ⟨t₀, h₀, trace, harmed, hstarted, htimer, hlive, runs, ?_, ?_, ?_⟩
  · rcases paced.stage with delaying | ⟨T, h, before, y, after, indices, hpast, relays, attempts, _⟩
    · exact Or.inl ⟨delaying.unfired, delaying.unsent⟩
    · exact Or.inr ⟨T, h, before, y, after, indices, hpast, relays, attempts,
        attempts.increasing, attempts.le_start⟩
  · intro calm unprompted hcalm hgoing hended
    have moves := unasked_moves clock unprompted
    obtain ⟨_, _, read, hread, hrest, _⟩ := start_moves moves Unasked.trans hstart
    obtain ⟨hcalm₁, hsame⟩ := hread.trans (Unasked.trans (moves.now read) hrest) hcalm
    obtain ⟨_, _, hown⟩ := runs.keeps time.timed (onTimer_onward time)
      (calm_kept unprompted (clock x.state + UInt64.size)) hrange []
      ⟨hcalm₁, fun hstopped => by rw [hsame, hgoing] at hstopped; cases hstopped⟩
    exact paced.all_sent hown
      (runs.outcome_iff (request.timed clock) paced.coherent hended) hended
  · intro hempty hfuel
    exact (lasts fuel hempty hfuel).returns time request runs hrange

/-- The transport takes two and a half paces with the first of three images and refuses the second,
so that the second is late for its boundary and the one after that is skipped. -/
theorem spin_keeps_rate_late :
    let scene : Scene :=
      { Scene.fresh with script := some ⟨none, [.accepted (Time.millis 25), .refused "gone"]⟩ }
    let settings : Settings := ⟨Time.millis 10, 3, 0, Time.millis 5, "", some 1⟩
    let w := Scene.world.timed (·.clock)
    let begun := (start w "camera" "image" settings 16 .plain .empty).run ⟨Bench.fresh scene, []⟩
    let p := launched "camera" settings ⟨"image", "image", 16⟩ ⟨#[]⟩ 0
    let q₁ := (TimerQueue.empty.serve (.once 0 (Time.millis 5))).2
    let out : Dispatch.Ending Publisher (Timed (Bench Scene)) :=
      Dispatch.spin w (onTimer w) 12 p q₁ begun.2
    begun.1 = .ok (p, q₁) ∧ out.2.state.clock = Time.millis 45 ∧
      out.2.sent = [Time.millis 15, Time.millis 40, Time.millis 45] ∧
      out.1.1 = some .shutdown ∧ out.2.sent.length = settings.maxCount.toNat ∧
      ∃ trace T h before y after indices,
        Runs w (onTimer w) 12 begun.2 .waiting p q₁ begun.2 trace out ∧
        trace = before ++ y :: after ∧ Time.millis 5 ≤ T ∧
        Attempts (·.clock) h T (pace settings) after indices out.2.sent ∧
        indices.Pairwise (· < ·) := by
  intro scene settings w begun p q₁ out
  have hbegun : begun.1 = .ok (p, q₁) := by
    simp only [begun, p, q₁, w, settings, scene]
    rfl
  have hstart : begun = (.ok (p, q₁), begun.2) := Prod.ext hbegun rfl
  have hclock : out.2.state.clock = Time.millis 45 := by
    decide +kernel
  have hsent : out.2.sent = [Time.millis 15, Time.millis 40, Time.millis 45] := by
    decide +kernel
  have hrange : out.2.state.clock < (Bench.fresh scene).clock + UInt64.size := by
    rw [hclock]
    decide
  obtain ⟨t₀, h₀, trace, _, _, _, _, runs, hrate, hall, hreturns⟩ := spin_keeps_rate
    (Bench.keepsTime Scene.outside) (Bench.keepsRequest Scene.outside) ⟨[], rfl⟩ rfl hstart 12
    hrange
  have hended : out.1.1 ≠ none := hreturns rfl (by decide)
  obtain ⟨hshutdown, hcount⟩ := hall Bench.Unplanned (Bench.unprompted Scene.outside)
    ⟨by simp [Bench.fresh], by simp [Bench.fresh]⟩ rfl hended
  rcases hrate with
    ⟨_, hnone⟩ | ⟨T, h, before, y, after, indices, htrace, relays, attempts, hless, _⟩
  · cases hsent.symm.trans hnone
  · exact ⟨hbegun, hclock, hsent, hshutdown, hcount, trace, T, h, before, y, after, indices, runs,
      htrace, Nat.le_trans (Nat.le_add_left _ t₀) relays.due, attempts, hless⟩

end PacedImages.Publisher
