import PacedImages.Proofs.Time.Boundary
import PacedImages.Proofs.Time.TimerSet

/-!
# Single timers under calls

What calls make of the timer under one handle: a handle that has no timer any more never gets one
again, handles being counted without end; a repeating timer stays until it is cancelled, and a timer
that is new was armed by a call.
The repeating timers of a queue in use have a period and a deadline of at least one shortest period,
so once a timer was popped every timer comes after it.
-/

namespace PacedImages

/-- The timer that a call arms, if it is a call that arms one. -/
def TimerCall.armed? : TimerCall → Option Timer
  | .once clock delay => some ⟨.once, clock + delay⟩
  | .every clock period =>
    some ⟨.every (max period Time.minPeriod), clock + max period Time.minPeriod⟩
  | _ => none

namespace TimerQueue

variable {q : TimerQueue} {h : Handle} {t : Timer}

/-- A timer that is there after a call was there before, was armed by the call, or is the first
timer and went on at its next boundary. -/
theorem timer_of_serve (c : Coherent q) {call : TimerCall}
    (ht : (q.serve call).2.timers[h]? = some t) :
    q.timers[h]? = some t ∨ (h = q.nextHandle ∧ call.armed? = some t) ∨
      ∃ now u period, call = .popDue now ∧ q.timers[h]? = some u ∧ u.kind = .every period ∧
        t = ⟨.every period, Time.nextBoundary u.deadline period now⟩ := by
  have arming {kind : TimerKind} {deadline : Instant} (harmed : call.armed? = some ⟨kind, deadline⟩)
      (ht : (q.arm kind deadline).2.timers[h]? = some t) :
      q.timers[h]? = some t ∨ (h = q.nextHandle ∧ call.armed? = some t) := by
    rw [getElem?_arm] at ht
    split at ht
    · next hnew => exact Or.inr ⟨hnew.symm, harmed.trans ht⟩
    · exact Or.inl ht
  cases call with
  | once clock delay => exact (arming rfl ht).imp_right Or.inl
  | every clock period => exact (arming rfl ht).imp_right Or.inl
  | cancel k =>
    refine Or.inl ?_
    change (q.cancel k).2.timers[h]? = some t at ht
    rw [getElem?_cancel] at ht
    split at ht
    · cases ht
    · exact ht
  | isActive k => exact Or.inl ht
  | size => exact Or.inl ht
  | isEmpty => exact Or.inl ht
  | nextDeadline => exact Or.inl ht
  | popDue now =>
    change (q.popDue now).2.timers[h]? = some t at ht
    rcases hpop : q.popDue now with ⟨_ | k, q'⟩
    · rw [hpop, (c.popDue_none hpop).1] at ht
      exact Or.inl ht
    · obtain ⟨u, hfirst, _, _, htimers, _⟩ := c.popDue_some hpop
      rw [hpop, htimers] at ht
      by_cases hk : h = k
      · subst hk
        cases hkind : u.kind with
        | once =>
          rw [getElem?_afterFiring_once now hkind] at ht
          cases ht
        | every period =>
          rw [getElem?_afterFiring_every now hkind] at ht
          exact Or.inr (Or.inr ⟨now, u, period, rfl, hfirst.1, hkind, (Option.some.inj ht).symm⟩)
      · rw [getElem?_afterFiring_of_ne now u hk] at ht
        exact Or.inl ht

theorem nextHandle_serve (c : Coherent q) (call : TimerCall) :
    q.nextHandle ≤ (q.serve call).2.nextHandle := by
  have hset := congrArg TimerSet.nextHandle (serve_eq_set c call).2.1
  change (q.serve call).2.nextHandle = _ at hset
  rw [hset]
  rcases (TimerSet.ofQueue q).serve_nextHandle call with ⟨_, hnext⟩ | ⟨_, hnext⟩
  · exact hnext ▸ Nat.le_succ _
  · exact hnext ▸ Nat.le_refl _

theorem Coherent.lt_nextHandle (c : Coherent q) (ht : q.timers[h]? = some t) : h < q.nextHandle :=
  c.given _ (c.covered h t ht)

/-- The next handle is not in use yet. -/
theorem Coherent.unused_nextHandle (c : Coherent q) : q.timers[q.nextHandle]? = none := by
  cases ht : q.timers[q.nextHandle]? with
  | none => rfl
  | some t => exact absurd (c.lt_nextHandle ht) (Nat.lt_irrefl _)

/-- A handle that was given and has no timer any more stays without. -/
theorem serve_gone (c : Coherent q) (hold : h < q.nextHandle) (hgone : q.timers[h]? = none)
    (call : TimerCall) : (q.serve call).2.timers[h]? = none := by
  cases ht : (q.serve call).2.timers[h]? with
  | none => rfl
  | some t =>
    rcases timer_of_serve c ht with hthere | ⟨hnew, _⟩ | ⟨_, u, _, _, hthere, _⟩
    · rw [hgone] at hthere
      cases hthere
    · exact absurd hnew (Nat.ne_of_lt hold)
    · rw [hgone] at hthere
      cases hthere

/-- What a call makes of a repeating timer: it goes if it is cancelled, goes on at its next boundary
if it is popped, and else stays as it is. -/
theorem serve_every_cases (c : Coherent q) {period : Duration} {deadline : Instant}
    (ht : q.timers[h]? = some ⟨.every period, deadline⟩) (call : TimerCall) :
    (call = .cancel h ∧ (q.serve call).2.timers[h]? = none) ∨
      ((q.serve call).1 ≠ .popped (some h) ∧
        (q.serve call).2.timers[h]? = some ⟨.every period, deadline⟩) ∨
      ∃ now, call = .popDue now ∧ (q.serve call).1 = .popped (some h) ∧
        (q.serve call).2.timers[h]? =
          some ⟨.every period, Time.nextBoundary deadline period now⟩ := by
  have hne : q.nextHandle ≠ h := Nat.ne_of_gt (c.lt_nextHandle ht)
  have arming (kind : TimerKind) (d : Instant) :
      (q.arm kind d).2.timers[h]? = some ⟨.every period, deadline⟩ := by
    rw [getElem?_arm, if_neg hne, ht]
  cases call with
  | once clock delay => exact Or.inr (Or.inl ⟨by rintro ⟨⟩, arming _ _⟩)
  | every clock period => exact Or.inr (Or.inl ⟨by rintro ⟨⟩, arming _ _⟩)
  | cancel k =>
    change (TimerCall.cancel k = .cancel h ∧ (q.cancel k).2.timers[h]? = none) ∨
      (_ ∧ (q.cancel k).2.timers[h]? = _) ∨ _
    rw [getElem?_cancel]
    by_cases hk : k = h
    · exact Or.inl ⟨congrArg TimerCall.cancel hk, if_pos hk⟩
    · exact Or.inr (Or.inl ⟨by rintro ⟨⟩, (if_neg hk).trans ht⟩)
  | isActive k => exact Or.inr (Or.inl ⟨by rintro ⟨⟩, ht⟩)
  | size => exact Or.inr (Or.inl ⟨by rintro ⟨⟩, ht⟩)
  | isEmpty => exact Or.inr (Or.inl ⟨by rintro ⟨⟩, ht⟩)
  | nextDeadline => exact Or.inr (Or.inl ⟨by rintro ⟨⟩, ht⟩)
  | popDue now =>
    refine Or.inr ?_
    rcases hpop : q.popDue now with ⟨_ | k, q'⟩
    · have hserve : q.serve (.popDue now) = (.popped none, q') := by simp only [serve, hpop]
      rw [hserve, (c.popDue_none hpop).1]
      exact Or.inl ⟨by rintro ⟨⟩, ht⟩
    · obtain ⟨u, hfirst, _, _, htimers, _⟩ := c.popDue_some hpop
      have hserve : q.serve (.popDue now) = (.popped (some k), q') := by simp only [serve, hpop]
      rw [hserve, htimers]
      by_cases hk : h = k
      · subst hk
        have hu : u = ⟨.every period, deadline⟩ := Option.some.inj (hfirst.1.symm.trans ht)
        subst hu
        exact Or.inr ⟨now, rfl, rfl, getElem?_afterFiring_every now rfl⟩
      · refine Or.inl ⟨?_, (getElem?_afterFiring_of_ne now u hk).trans ht⟩
        rintro ⟨⟩
        exact hk rfl

/-- A repeating timer outlives every call but the one that cancels it. -/
theorem serve_every (c : Coherent q) {period : Duration} {deadline : Instant}
    (ht : q.timers[h]? = some ⟨.every period, deadline⟩) {call : TimerCall}
    (hspared : call ≠ .cancel h) :
    ∃ later, (q.serve call).2.timers[h]? = some ⟨.every period, later⟩ := by
  rcases serve_every_cases c ht call with ⟨hcancel, _⟩ | ⟨_, hkept⟩ | ⟨_, _, _, hmoved⟩
  · exact absurd hcancel hspared
  · exact ⟨_, hkept⟩
  · exact ⟨_, hmoved⟩

end TimerQueue

/-- A repeating timer has a period, and was armed at least that long after the origin of time. -/
def Timer.IsPaced (t : Timer) : Prop :=
  ∀ period, t.kind = .every period → Time.minPeriod ≤ period ∧ Time.minPeriod ≤ t.deadline

theorem TimerCall.armed?_isPaced {call : TimerCall} {t : Timer} (h : call.armed? = some t) :
    t.IsPaced := by
  intro period hkind
  cases call with
  | once clock delay =>
    cases h
    cases hkind
  | every clock given =>
    cases h
    cases hkind
    have hle : Time.minPeriod ≤ max given Time.minPeriod := Nat.le_max_right _ _
    exact ⟨hle, Nat.le_trans hle (Nat.le_add_left _ _)⟩
  | _ => cases h

namespace TimerQueue

/-- A coherent queue whose repeating timers are paced. -/
structure Regular (q : TimerQueue) : Prop extends Coherent q where
  paced : ∀ (h : Handle) (t : Timer), q.timers[h]? = some t → t.IsPaced

variable {q : TimerQueue}

theorem Regular.serve (regular : Regular q) (call : TimerCall) : Regular (q.serve call).2 where
  toCoherent := (serve_eq_set regular.toCoherent call).2.2
  paced := by
    intro h t ht
    rcases timer_of_serve regular.toCoherent ht with
      hthere | ⟨_, harmed⟩ | ⟨now, u, period, _, hthere, hkind, rfl⟩
    · exact regular.paced h t hthere
    · exact TimerCall.armed?_isPaced harmed
    · rintro _ ⟨⟩
      obtain ⟨hperiod, hdeadline⟩ := regular.paced h u hthere period hkind
      exact ⟨hperiod, Nat.le_trans hdeadline (Time.le_nextBoundary _ _ _)⟩

theorem Regular.replay (regular : Regular q) (calls : List TimerCall) :
    Regular (replay TimerQueue.serve q calls).2 := by
  induction calls generalizing q with
  | nil => exact regular
  | cons call rest ih => exact ih (regular.serve call)

/-- Under any calls a handle that was given and has no timer stays without. -/
theorem replay_gone (regular : Regular q) {h : Handle} (hold : h < q.nextHandle)
    (hgone : q.timers[h]? = none) (calls : List TimerCall) :
    h < (replay TimerQueue.serve q calls).2.nextHandle ∧
      (replay TimerQueue.serve q calls).2.timers[h]? = none := by
  induction calls generalizing q with
  | nil => exact ⟨hold, hgone⟩
  | cons call rest ih =>
    have c := regular.toCoherent
    exact ih (regular.serve call) (Nat.lt_of_lt_of_le hold (nextHandle_serve c call))
      (serve_gone c hold hgone call)

theorem Reachable.regular (reachable : Reachable q) : Regular q := by
  obtain ⟨calls, rfl⟩ := reachable
  refine Regular.replay ⟨Coherent.empty, ?_⟩ calls
  intro h t ht
  simp [TimerQueue.empty] at ht

end TimerQueue

/-! ## Expiries that are over -/

/-- A call that arms timers from an instant on only, if it arms one. -/
def TimerCall.StartsFrom (present : Instant) : TimerCall → Prop
  | .once clock _ => present ≤ clock
  | .every clock _ => present ≤ clock
  | _ => True

theorem TimerCall.StartsFrom.mono {call : TimerCall} {earlier present : Instant}
    (hle : earlier ≤ present) (starts : call.StartsFrom present) : call.StartsFrom earlier := by
  cases call with
  | once clock delay => exact Nat.le_trans hle starts
  | every clock period => exact Nat.le_trans hle starts
  | _ => trivial

theorem TimerCall.StartsFrom.le_deadline {call : TimerCall} {present : Instant} {t : Timer}
    (starts : call.StartsFrom present) (harmed : call.armed? = some t) : present ≤ t.deadline := by
  cases call with
  | once clock delay =>
    cases harmed
    exact Nat.le_trans starts (Nat.le_add_right _ _)
  | every clock period =>
    cases harmed
    exact Nat.le_trans starts (Nat.le_add_right _ _)
  | _ => cases harmed

namespace TimerQueue

theorem precedes_later {e : Nat × Nat} {d later k : Nat} (hprecedes : precedes e (d, k) = true)
    (hle : d ≤ later) : precedes e (later, k) = true := by
  rw [precedes_iff] at *
  simp only at *
  omega

/-- Every timer that is there, or that is to come, comes after an expiry. -/
structure Ahead (q : TimerQueue) (e : Instant × Handle) : Prop where
  given : e.2 < q.nextHandle
  after : ∀ (k : Handle) (u : Timer), q.timers[k]? = some u → precedes e (u.deadline, k) = true

variable {q : TimerQueue} {e : Instant × Handle}

/-- Calls that arm timers from then on only leave an expiry behind. -/
theorem Ahead.serve (c : Coherent q) (ahead : q.Ahead e) {call : TimerCall}
    (starts : call.StartsFrom e.1) : (q.serve call).2.Ahead e where
  given := Nat.lt_of_lt_of_le ahead.given (nextHandle_serve c call)
  after := by
    intro k u hu
    rcases timer_of_serve c hu with hthere | ⟨rfl, harmed⟩ | ⟨now, v, period, _, hthere, _, rfl⟩
    · exact ahead.after k u hthere
    · have hle := starts.le_deadline harmed
      rcases Nat.lt_or_eq_of_le hle with hlt | heq
      · exact precedes_iff.mpr (Or.inl hlt)
      · exact precedes_iff.mpr (Or.inr ⟨heq, ahead.given⟩)
    · exact precedes_later (ahead.after k v hthere) (Time.le_nextBoundary _ _ _)

theorem Ahead.replay (regular : Regular q) (ahead : q.Ahead e) {calls : List TimerCall}
    (starts : ∀ call ∈ calls, call.StartsFrom e.1) :
    (replay TimerQueue.serve q calls).2.Ahead e := by
  induction calls generalizing q with
  | nil => exact ahead
  | cons call rest ih =>
    have ahead' := ahead.serve regular.toCoherent (starts call List.mem_cons_self)
    exact ih (regular.serve call) ahead' fun other hmem =>
      starts other (List.mem_cons_of_mem _ hmem)

/-- A timer that is popped was due, and every timer that is left comes after it. -/
theorem Regular.popDue_ahead (regular : Regular q) {now : Instant} {h : Handle} {q' : TimerQueue}
    (hpop : q.popDue now = (some h, q')) (hrange : now < UInt64.size) :
    ∃ t, q.timers[h]? = some t ∧ t.deadline ≤ now ∧ q'.Ahead (t.deadline, h) := by
  obtain ⟨t, ⟨ht, hfirst⟩, hdue, hnext, htimers, _⟩ := regular.popDue_some hpop
  refine ⟨t, ht, hdue, hnext ▸ regular.lt_nextHandle ht, ?_⟩
  intro k u hu
  rw [htimers] at hu
  by_cases hk : k = h
  · subst hk
    cases hkind : t.kind with
    | once =>
      rw [getElem?_afterFiring_once now hkind] at hu
      cases hu
    | every period =>
      rw [getElem?_afterFiring_every now hkind] at hu
      cases hu
      obtain ⟨hperiod, hdeadline⟩ := regular.paced k t ht period hkind
      have hmin : 0 < Time.minPeriod := by decide
      have hlt : now < Time.nextBoundary t.deadline period now :=
        Time.lt_nextBoundary 0 (Nat.lt_of_lt_of_le hmin hperiod)
          (Nat.lt_of_lt_of_le hmin hdeadline) ((Nat.zero_add _).symm ▸ hrange)
      exact precedes_iff.mpr (Or.inl (Nat.lt_of_le_of_lt hdue hlt))
  · rw [getElem?_afterFiring_of_ne now t hk] at hu
    rcases hfirst k u hu with hlt | ⟨heq, hle⟩
    · exact precedes_iff.mpr (Or.inl hlt)
    · exact precedes_iff.mpr (Or.inr ⟨heq, Nat.lt_of_le_of_ne hle (Ne.symm hk)⟩)

end TimerQueue

end PacedImages
