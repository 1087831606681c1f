import PacedImages.Proofs.Time.Handles

/-!
# Draining a queue

Timers are popped at one instant until none is due any more. Each timer that is due is popped once,
in the order of deadlines and then of handles, since a repeating timer goes on after the instant.
Main statement: draining takes as many pops as timers are due, and however late a repeating timer is
popped, its deadlines stay on the multiples of its period from the instant at which it was armed,
none of them twice.
-/

namespace PacedImages

/-- A timer that has to skip boundaries at an instant finds one after it that 64 bits reach. -/
def Timer.Reaches (t : Timer) (now : Instant) : Prop :=
  ∀ period, t.kind = .every period → t.deadline + period ≤ now →
    ∃ n, now < t.deadline + n * period ∧ n * period < UInt64.size

namespace TimerQueue

def Reaches (q : TimerQueue) (now : Instant) : Prop :=
  ∀ (h : Handle) (t : Timer), q.timers[h]? = some t → t.Reaches now

/-- The timers that are due at an instant, each with its deadline, in the order of deadlines and
then of handles. -/
structure Due (q : TimerQueue) (now : Instant) (xs : List (Instant × Handle)) : Prop where
  ordered : xs.Pairwise fun a b => precedes a b = true
  mem_iff : ∀ (d : Instant) (h : Handle),
    (d, h) ∈ xs ↔ ∃ t, q.timers[h]? = some t ∧ t.deadline = d ∧ d ≤ now

/-- `q'` is `q` after all that was due at an instant was popped: of the timers that were due the
single ones are gone and the repeating ones go on at their first boundary after the instant, and all
other timers are as they were. -/
structure Drained (q : TimerQueue) (now : Instant) (q' : TimerQueue) : Prop where
  nextHandle : q'.nextHandle = q.nextHandle
  absent : ∀ h : Handle, q.timers[h]? = none → q'.timers[h]? = none
  early : ∀ (h : Handle) (t : Timer), q.timers[h]? = some t → now < t.deadline →
    q'.timers[h]? = some t
  once : ∀ (h : Handle) (deadline : Instant), q.timers[h]? = some ⟨.once, deadline⟩ →
    deadline ≤ now → q'.timers[h]? = none
  every : ∀ (h : Handle) (period : Duration) (deadline : Instant),
    q.timers[h]? = some ⟨.every period, deadline⟩ → deadline ≤ now →
    ∃ k, 1 ≤ k ∧ q'.timers[h]? = some ⟨.every period, deadline + k * period⟩ ∧
      now < deadline + k * period ∧ deadline + (k - 1) * period ≤ now

/-- Every pop among the calls comes in time for the repeating timers to find their boundaries. -/
def PopsReach : TimerQueue → List TimerCall → Prop
  | _, [] => True
  | q, call :: rest =>
    (∀ now, call = .popDue now → q.Reaches now) ∧ PopsReach (q.serve call).2 rest

/-- The deadline that a call gives to the timer under a handle, if it pops the timer or if the
deadline is new for any other reason. -/
def newDeadline? (h : Handle) (q : TimerQueue) (call : TimerCall) : Option Instant :=
  let (answer, after) := q.serve call
  match after.timers[h]? with
  | some t =>
    if answer = .popped (some h) ∨ q.timers[h]?.map (·.deadline) ≠ some t.deadline then
      some t.deadline
    else none
  | none => none

/-- The deadlines that the timer under a handle gets in the course of calls. -/
def deadlines (h : Handle) : TimerQueue → List TimerCall → List Instant
  | _, [] => []
  | q, call :: rest => (newDeadline? h q call).toList ++ deadlines h (q.serve call).2 rest

variable {q q' : TimerQueue} {now : Instant} {xs rest : List (Instant × Handle)}

/-! ## The timers that are due -/

theorem precedes_irrefl (x : Nat × Nat) : ¬ precedes x x = true := by
  rw [precedes_iff]
  omega

theorem Coherent.exists_due (c : Coherent q) (now : Instant) : ∃ xs, Due q now xs := by
  refine ⟨q.expiries.filter fun x => q.isLive x && decide (x.1 ≤ now), c.ordered.filter _, ?_⟩
  intro d h
  rw [List.mem_filter, Bool.and_eq_true, decide_eq_true_eq]
  constructor
  · rintro ⟨hmem, hlive, hdue⟩
    obtain ⟨t, ht⟩ := (c.isLive_iff hmem).mp hlive
    exact ⟨t, ht, (c.eq_deadline hmem ht).symm, hdue⟩
  · rintro ⟨t, ht, rfl, hdue⟩
    have hmem := c.covered h t ht
    exact ⟨hmem, (c.isLive_iff hmem).mpr ⟨t, ht⟩, hdue⟩

theorem Due.nodup_handles (due : Due q now xs) : (xs.map (·.2)).Nodup := by
  rw [List.Nodup, List.pairwise_map]
  refine List.Pairwise.imp_of_mem ?_ due.ordered
  intro a b ha hb hprecedes heq
  obtain ⟨t, ht, hta, _⟩ := (due.mem_iff a.1 a.2).mp ha
  obtain ⟨u, hu, hub, _⟩ := (due.mem_iff b.1 b.2).mp hb
  rw [heq, hu] at ht
  have hab : a = b := Prod.ext (by rw [← hta, ← hub, Option.some.inj ht]) heq
  exact precedes_irrefl b (hab ▸ hprecedes)

/-- As many timers are due as a count of all timers finds. -/
theorem Due.length_eq (due : Due q now xs) :
    xs.length = q.timers.toList.countP fun x => x.2.deadline ≤ now := by
  have hkeys : (q.timers.toList.map (·.1)).Nodup := by
    have hdistinct := q.timers.distinct_keys_toList
    rw [List.Nodup, List.pairwise_map]
    exact hdistinct.imp fun hne heq => hne (Std.LawfulEqCmp.compare_eq_iff_eq.mpr heq)
  have hperm : (xs.map (·.2)).Perm
      ((q.timers.toList.filter fun x => x.2.deadline ≤ now).map (·.1)) := by
    rw [List.perm_ext_iff_of_nodup due.nodup_handles
      (hkeys.sublist (List.filter_sublist.map _))]
    intro h
    simp only [List.mem_map, List.mem_filter, decide_eq_true_eq, Prod.exists,
      Std.ExtTreeMap.mem_toList_iff_getElem?_eq_some]
    constructor
    · rintro ⟨d, _, hmem, rfl⟩
      obtain ⟨t, ht, rfl, hdue⟩ := (due.mem_iff d _).mp hmem
      exact ⟨_, t, ⟨ht, hdue⟩, rfl⟩
    · rintro ⟨_, t, ⟨ht, hdue⟩, rfl⟩
      exact ⟨t.deadline, _, (due.mem_iff _ _).mpr ⟨t, ht, rfl, hdue⟩, rfl⟩
  rw [List.countP_eq_length_filter]
  simpa using hperm.length_eq

/-! ## One pop -/

theorem Coherent.popDue_of_late (c : Coherent q)
    (hlate : ∀ (h : Handle) (t : Timer), q.timers[h]? = some t → now < t.deadline) :
    q.popDue now = (none, q.settle) := by
  rcases c.popDue_cases now with ⟨hpop, _⟩ | ⟨h, t, hfirst, hdue, _⟩
  · exact hpop
  · exact False.elim (Nat.not_lt_of_le hdue (hlate h t hfirst.1))

theorem Due.late (due : Due q now []) {h : Handle} {t : Timer} (ht : q.timers[h]? = some t) :
    now < t.deadline := by
  refine Nat.lt_of_not_le fun hdue => ?_
  cases (due.mem_iff t.deadline h).mpr ⟨t, ht, rfl, hdue⟩

theorem Drained.of_late (due : Due q now []) (hnext : q'.nextHandle = q.nextHandle)
    (htimers : q'.timers = q.timers) : Drained q now q' where
  nextHandle := hnext
  absent h hgone := by rwa [htimers]
  early h t ht _ := by rwa [htimers]
  once h deadline ht hdue := absurd (due.late ht) (Nat.not_lt_of_le hdue)
  every h period deadline ht hdue := absurd (due.late ht) (Nat.not_lt_of_le hdue)

/-- What the first pop does: the timer that comes first goes or goes on after the instant. -/
structure Popped (q : TimerQueue) (now : Instant) (h : Handle) (t : Timer) (q' : TimerQueue) :
    Prop where
  there : q.timers[h]? = some t
  due : t.deadline ≤ now
  nextHandle : q'.nextHandle = q.nextHandle
  others : ∀ k : Handle, k ≠ h → q'.timers[k]? = q.timers[k]?
  once : t.kind = .once → q'.timers[h]? = none
  every : ∀ period, t.kind = .every period →
    ∃ k, 1 ≤ k ∧ q'.timers[h]? = some ⟨.every period, t.deadline + k * period⟩ ∧
      now < t.deadline + k * period ∧ t.deadline + (k - 1) * period ≤ now

theorem Regular.nextBoundary_first (regular : Regular q) (reaches : q.Reaches now) {h : Handle}
    {period : Duration} {deadline : Instant}
    (ht : q.timers[h]? = some ⟨.every period, deadline⟩) :
    ∃ k, 1 ≤ k ∧ Time.nextBoundary deadline period now = deadline + k * period ∧
      now < deadline + k * period ∧ (deadline ≤ now → deadline + (k - 1) * period ≤ now) := by
  have hmin : 0 < Time.minPeriod := by decide
  have hperiod := (regular.paced h _ ht period rfl).1
  exact Time.nextBoundary_first (Nat.lt_of_lt_of_le hmin hperiod) (reaches h _ ht period rfl)

theorem Regular.popDue_popped (regular : Regular q) (reaches : q.Reaches now) {h : Handle}
    (hpop : q.popDue now = (some h, q')) :
    ∃ t, IsFirst q.timers h t ∧ Popped q now h t q' := by
  obtain ⟨⟨kind, deadline⟩, hfirst, hdue, hnext, htimers, _⟩ := regular.popDue_some hpop
  refine ⟨_, hfirst, hfirst.1, hdue, hnext, ?_, ?_, ?_⟩
  · intro k hk
    rw [htimers, getElem?_afterFiring_of_ne now _ hk]
  · intro hkind
    rw [htimers, getElem?_afterFiring_once now hkind]
  · rintro period ⟨⟩
    obtain ⟨k, hk, hnextBoundary, hafter, hbefore⟩ :=
      regular.nextBoundary_first reaches hfirst.1
    refine ⟨k, hk, ?_, hafter, hbefore hdue⟩
    rw [htimers, getElem?_afterFiring_every now rfl, hnextBoundary]

theorem Popped.late {h : Handle} {t u : Timer} (popped : Popped q now h t q')
    (hu : q'.timers[h]? = some u) : now < u.deadline := by
  cases hkind : t.kind with
  | once =>
    rw [popped.once hkind] at hu
    cases hu
  | every period =>
    obtain ⟨k, _, hthere, hafter, _⟩ := popped.every period hkind
    rw [hthere] at hu
    cases hu
    exact hafter

theorem Popped.reaches {h : Handle} {t : Timer} (popped : Popped q now h t q')
    (reaches : q.Reaches now) : q'.Reaches now := by
  intro k u hu
  by_cases hk : k = h
  · subst hk
    intro period _ hskips
    exact absurd (popped.late hu) (Nat.not_lt_of_le (Nat.le_of_add_right_le hskips))
  · rw [popped.others k hk] at hu
    exact reaches k u hu

/-- The first of the timers that are due is popped, and the others stay due. -/
theorem Popped.due_rest {x : Instant × Handle} {h : Handle} {t : Timer}
    (popped : Popped q now h t q') (hfirst : IsFirst q.timers h t) (due : Due q now (x :: rest)) :
    h = x.2 ∧ Due q' now rest := by
  have hordered := List.pairwise_cons.mp due.ordered
  have hmem : (t.deadline, h) ∈ x :: rest :=
    (due.mem_iff _ _).mpr ⟨t, popped.there, rfl, popped.due⟩
  obtain ⟨u, hu, hux, _⟩ := (due.mem_iff x.1 x.2).mp List.mem_cons_self
  have heq : (t.deadline, h) = x := by
    rcases List.mem_cons.mp hmem with heq | hlater
    · exact heq
    · have hbefore := precedes_iff.mp (hordered.1 _ hlater)
      have hleast := hfirst.2 x.2 u hu
      rw [hux] at hleast
      unfold Instant Handle at *
      omega
  subst heq
  refine ⟨rfl, hordered.2, ?_⟩
  intro d k
  by_cases hk : k = h
  · subst hk
    constructor
    · intro hlater
      obtain ⟨v, hv, rfl, _⟩ := (due.mem_iff d k).mp (List.mem_cons_of_mem _ hlater)
      rw [popped.there] at hv
      cases hv
      exact absurd (hordered.1 _ hlater) (precedes_irrefl _)
    · rintro ⟨v, hv, rfl, hvdue⟩
      exact absurd (popped.late hv) (Nat.not_lt_of_le hvdue)
  · have hne : (d, k) ≠ (t.deadline, h) := fun heq => hk (congrArg Prod.snd heq)
    rw [popped.others k hk, ← due.mem_iff d k, List.mem_cons]
    exact ⟨Or.inr, fun hor => hor.resolve_left hne⟩

theorem Popped.drained {q'' : TimerQueue} {h : Handle} {t : Timer} (popped : Popped q now h t q')
    (drained : Drained q' now q'') : Drained q now q'' where
  nextHandle := drained.nextHandle.trans popped.nextHandle
  absent k hgone := by
    have hk : k ≠ h := by
      rintro rfl
      rw [popped.there] at hgone
      cases hgone
    exact drained.absent k ((popped.others k hk).trans hgone)
  early k u hu hlate := by
    have hk : k ≠ h := by
      rintro rfl
      rw [popped.there] at hu
      cases hu
      exact Nat.not_lt_of_le popped.due hlate
    exact drained.early k u ((popped.others k hk).trans hu) hlate
  once k deadline hu hdue := by
    by_cases hk : k = h
    · subst hk
      have hkind : t.kind = .once := by rw [Option.some.inj (popped.there.symm.trans hu)]
      exact drained.absent k (popped.once hkind)
    · exact drained.once k deadline ((popped.others k hk).trans hu) hdue
  every k period deadline hu hdue := by
    by_cases hk : k = h
    · subst hk
      obtain rfl : t = ⟨.every period, deadline⟩ := Option.some.inj (popped.there.symm.trans hu)
      obtain ⟨n, hn, hthere, hafter, hbefore⟩ := popped.every period rfl
      exact ⟨n, hn, drained.early k _ hthere hafter, hafter, hbefore⟩
    · exact drained.every k period deadline ((popped.others k hk).trans hu) hdue

/-! ## All pops at an instant -/

/-- A queue of which the timers `xs` are due gives their handles in order, as long as it is popped,
and nothing more. -/
theorem Regular.drain_due (regular : Regular q) (reaches : q.Reaches now) (due : Due q now xs)
    (fuel : Nat) :
    (drain fuel q now).1 = (xs.map (·.2)).take fuel ∧
      (xs.length ≤ fuel → Drained q now (drain fuel q now).2 ∧
        ((drain fuel q now).2.popDue now).1 = none) := by
  induction xs generalizing q fuel with
  | nil =>
    have hlate (h : Handle) (t : Timer) (ht : q.timers[h]? = some t) := due.late ht
    have hpop := regular.popDue_of_late hlate
    rw [List.map_nil, List.take_nil]
    cases fuel with
    | zero => exact ⟨rfl, fun _ => ⟨.of_late due rfl rfl, congrArg Prod.fst hpop⟩⟩
    | succ fuel =>
      simp only [drain, hpop]
      have hagain := regular.settle.popDue_of_late hlate
      exact ⟨trivial, fun _ => ⟨.of_late due rfl rfl, congrArg Prod.fst hagain⟩⟩
  | cons x rest ih =>
    cases fuel with
    | zero => exact ⟨rfl, nofun⟩
    | succ fuel =>
      rcases hpop : q.popDue now with ⟨_ | h, q'⟩
      · obtain ⟨t, ht, hx, hdue⟩ := (due.mem_iff x.1 x.2).mp List.mem_cons_self
        have hlate := (regular.popDue_none hpop).2 x.2 t ht
        exact absurd (hx ▸ hdue) (Nat.not_le_of_lt hlate)
      · obtain ⟨t, hfirst, popped⟩ := regular.popDue_popped reaches hpop
        obtain ⟨rfl, due'⟩ := popped.due_rest hfirst due
        have hserved : (q.serve (.popDue now)).2 = q' := congrArg Prod.snd hpop
        have regular' : Regular q' := hserved ▸ regular.serve (.popDue now)
        obtain ⟨hhandles, hends⟩ := ih regular' (popped.reaches reaches) due' fuel
        simp only [drain, hpop, hhandles, List.map_cons, List.take_succ_cons, true_and,
          List.length_cons, Nat.add_le_add_iff_right]
        intro hfuel
        obtain ⟨drained, hnone⟩ := hends hfuel
        exact ⟨popped.drained drained, hnone⟩

/-! ## The deadlines of a repeating timer -/

theorem deadlines_gone (regular : Regular q) {h : Handle} (hold : h < q.nextHandle)
    (hgone : q.timers[h]? = none) (calls : List TimerCall) : deadlines h q calls = [] := by
  induction calls generalizing q with
  | nil => rfl
  | cons call rest ih =>
    have c := regular.toCoherent
    have hstill := serve_gone c hold hgone call
    have hrest := ih (regular.serve call) (Nat.lt_of_lt_of_le hold (nextHandle_serve c call)) hstill
    simp [deadlines, newDeadline?, hstill, hrest]

/-- From a boundary on, the deadlines of a repeating timer are later boundaries. -/
theorem deadlines_every (regular : Regular q) {h : Handle} {armed : Instant} {period k : Nat}
    (ht : q.timers[h]? = some ⟨.every period, armed + k * period⟩) {calls : List TimerCall}
    (reach : q.PopsReach calls) :
    ∃ ks : List Nat, (k :: ks).Pairwise (· < ·) ∧
      deadlines h q calls = ks.map fun k => armed + k * period := by
  induction calls generalizing q k with
  | nil => exact ⟨[], List.pairwise_singleton _ _, rfl⟩
  | cons call rest ih =>
    have c := regular.toCoherent
    have regular' := regular.serve call
    rcases serve_every_cases c ht call with
      ⟨_, hgone⟩ | ⟨hother, hkept⟩ | ⟨now, rfl, hpopped, hmoved⟩
    · have hold := Nat.lt_of_lt_of_le (c.lt_nextHandle ht) (nextHandle_serve c call)
      refine ⟨[], List.pairwise_singleton _ _, ?_⟩
      simp [deadlines, newDeadline?, hgone, deadlines_gone regular' hold hgone]
    · obtain ⟨ks, hincreasing, hks⟩ := ih regular' hkept reach.2
      refine ⟨ks, hincreasing, ?_⟩
      simp [deadlines, newDeadline?, hkept, ht, hother, hks]
    · obtain ⟨n, hn, hnext, _, _⟩ := regular.nextBoundary_first (reach.1 now rfl) ht
      have hsum : armed + k * period + n * period = armed + (k + n) * period := by
        rw [Nat.add_mul, Nat.add_assoc]
      rw [hnext, hsum] at hmoved
      obtain ⟨ks, hincreasing, hks⟩ := ih regular' hmoved reach.2
      refine ⟨(k + n) :: ks, List.pairwise_cons.mpr ⟨?_, hincreasing⟩, ?_⟩
      · intro j hj
        have hlt : k < k + n := Nat.lt_add_of_pos_right hn
        rcases List.mem_cons.mp hj with rfl | hj
        · exact hlt
        · exact Nat.lt_trans hlt ((List.pairwise_cons.mp hincreasing).1 j hj)
      · simp [deadlines, newDeadline?, hmoved, hpopped, hks]

/-! ## In the first centuries -/

/-- For half as long as 64 bits count nanoseconds from the origin, every boundary is reached. -/
theorem Regular.reaches_of_lt (regular : Regular q) (hrange : 2 * now < UInt64.size) :
    q.Reaches now := by
  intro h t ht period hkind hskips
  have hmin : 0 < Time.minPeriod := by decide
  have hperiod := (regular.paced h t ht period hkind).1
  exact Time.exists_boundary (Nat.lt_of_lt_of_le hmin hperiod) hskips hrange

theorem Regular.popsReach_of_lt (regular : Regular q) {calls : List TimerCall}
    (hrange : ∀ now, .popDue now ∈ calls → 2 * now < UInt64.size) : q.PopsReach calls := by
  induction calls generalizing q with
  | nil => trivial
  | cons call rest ih =>
    refine ⟨?_, ih (regular.serve call) fun now hmem => hrange now (List.mem_cons_of_mem _ hmem)⟩
    rintro now rfl
    exact regular.reaches_of_lt (hrange now List.mem_cons_self)

/-- Draining a queue at an instant pops the timers that are due, each once, and after as many pops
as there are such timers nothing is due any more. However late it is popped, the deadlines of a
repeating timer are boundaries counted from its arming, each later than the one before. -/
theorem drain_pops_each_once (reachable : q.Reachable) :
    (∀ now, q.Reaches now → ∃ xs, Due q now xs ∧ (xs.map (·.2)).Nodup ∧
      (xs.length = q.timers.toList.countP fun x => x.2.deadline ≤ now) ∧
      (∀ fuel, (drain fuel q now).1 = (xs.map (·.2)).take fuel) ∧
      ∀ fuel, xs.length ≤ fuel → Drained q now (drain fuel q now).2 ∧
        ((drain fuel q now).2.popDue now).1 = none) ∧
    ∀ (armed : Instant) (period : Duration) (calls : List TimerCall),
      q.PopsReach (.every armed period :: calls) → ∃ ks : List Nat, (1 :: ks).Pairwise (· < ·) ∧
        deadlines q.nextHandle q (.every armed period :: calls) =
          (1 :: ks).map fun k => armed + k * max period Time.minPeriod := by
  have regular := reachable.regular
  constructor
  · intro now reaches
    obtain ⟨xs, due⟩ := regular.exists_due now
    have hdrain := regular.drain_due reaches due
    exact ⟨xs, due, due.nodup_handles, due.length_eq, fun fuel => (hdrain fuel).1,
      fun fuel => (hdrain fuel).2⟩
  · intro armed period calls reach
    have hthere : (q.serve (.every armed period)).2.timers[q.nextHandle]? =
        some ⟨.every (max period Time.minPeriod), armed + 1 * max period Time.minPeriod⟩ := by
      rw [Nat.one_mul]
      exact (getElem?_arm _ _).trans (if_pos rfl)
    obtain ⟨ks, hincreasing, hks⟩ := deadlines_every (regular.serve _) hthere reach.2
    refine ⟨ks, hincreasing, ?_⟩
    simp [deadlines, newDeadline?, hthere, hks, regular.unused_nextHandle]

/-- Of a single timer, two repeating ones and a cancelled one, all armed at the origin, two are due
after 35 ms. A repeating timer that is popped late skips boundaries, and is not popped early. -/
theorem drain_pops_each_once_late :
    let q := (replay serve .empty [.once 0 (Time.millis 30), .every 0 (Time.millis 10),
      .every 0 (Time.millis 100), .once 0 (Time.millis 5), .cancel 3]).2
    let calls : List TimerCall := [.every (Time.millis 2) (Time.millis 10),
      .popDue (Time.millis 35), .popDue (Time.millis 35), .popDue (Time.millis 35),
      .popDue (Time.millis 41), .popDue (Time.millis 41), .popDue (Time.millis 42)]
    q.Reaches (Time.millis 35) ∧ (drain 5 q (Time.millis 35)).1 = [1, 0] ∧
      (∃ xs, Due q (Time.millis 35) xs ∧ xs.map (·.2) = [1, 0] ∧
        Drained q (Time.millis 35) (drain 5 q (Time.millis 35)).2) ∧
      q.PopsReach calls ∧
      deadlines 4 q calls = [Time.millis 12, Time.millis 42, Time.millis 52] ∧
      ∃ ks : List Nat, (1 :: ks).Pairwise (· < ·) ∧
        deadlines 4 q calls = (1 :: ks).map fun k => Time.millis 2 + k * Time.millis 10 := by
  intro q calls
  have reachable : q.Reachable := ⟨_, rfl⟩
  have reaches : q.Reaches (Time.millis 35) := reachable.regular.reaches_of_lt (by decide)
  have reach : q.PopsReach calls := by
    refine reachable.regular.popsReach_of_lt fun now hmem => ?_
    have hlast : now ≤ Time.millis 42 := by
      simp only [calls, List.mem_cons, TimerCall.popDue.injEq, reduceCtorEq, List.not_mem_nil,
        false_or, or_false] at hmem
      rcases hmem with rfl | rfl | rfl | rfl | rfl | rfl <;> decide
    exact Nat.lt_of_le_of_lt (Nat.mul_le_mul_left 2 hlast) (by decide)
  have hpopped : (drain 5 q (Time.millis 35)).1 = [1, 0] := by decide +kernel
  have hdeadlines : deadlines 4 q calls = [Time.millis 12, Time.millis 42, Time.millis 52] := by
    decide +kernel
  obtain ⟨hdrains, hkeeps⟩ := drain_pops_each_once reachable
  obtain ⟨xs, due, _, hlength, hhandles, hends⟩ := hdrains _ reaches
  have htwo : xs.length = 2 := hlength.trans (by decide +kernel)
  have hall : xs.map (·.2) = [1, 0] := by
    rw [← hpopped, hhandles 5, List.take_of_length_le]
    rw [List.length_map, htwo]
    decide
  refine ⟨reaches, hpopped, ⟨xs, due, hall, (hends 5 (htwo ▸ by decide)).1⟩, reach, hdeadlines, ?_⟩
  exact hkeeps (Time.millis 2) (Time.millis 10) _ reach

end TimerQueue

end PacedImages
