import Mathlib.Data.List.Nodup
import Mathlib.Data.List.TakeWhile
import Mathlib.Tactic.Tauto
import PacedImages.Time.TimerQueue

/-!
# Coherent timer queues

A queue is coherent if its expiries stand in order, every timer has exactly one expiry, which is the
one at its deadline, and no handle is in use that was not given yet. Every operation keeps a queue
coherent. What a coherent queue answers depends on its timers alone: expiries that no timer stands
behind never show.
-/

namespace PacedImages.TimerQueue

/-! ## The order of expiries -/

theorem precedes_iff {a b : Nat × Nat} :
    precedes a b = true ↔ a.1 < b.1 ∨ (a.1 = b.1 ∧ a.2 < b.2) := by
  simp [precedes]

theorem precedes_trans {a b c : Nat × Nat} (hab : precedes a b = true)
    (hbc : precedes b c = true) : precedes a c = true := by
  rw [precedes_iff] at *
  omega

theorem precedes_total {a b : Nat × Nat} (h : a.2 ≠ b.2) (hab : ¬ precedes a b = true) :
    precedes b a = true := by
  rw [precedes_iff] at *
  omega

theorem mem_enter {x y : Instant × Handle} {xs : List (Instant × Handle)} :
    y ∈ enter x xs ↔ y = x ∨ y ∈ xs := by
  induction xs with
  | nil => simp [enter]
  | cons z rest ih =>
    by_cases h : precedes x z = true
    · simp [enter, h]
    · simp only [enter, if_neg h, List.mem_cons, ih]
      tauto

theorem handles_enter_perm (x : Instant × Handle) (xs : List (Instant × Handle)) :
    (enter x xs).Perm (x :: xs) := by
  induction xs with
  | nil => exact List.Perm.refl _
  | cons z rest ih =>
    by_cases h : precedes x z = true
    · simp [enter, h]
    · simp only [enter, if_neg h]
      exact (ih.cons z).trans (List.Perm.swap x z rest)

theorem enter_ordered {x : Instant × Handle} {xs : List (Instant × Handle)}
    (ordered : xs.Pairwise fun a b => precedes a b = true)
    (fresh : ∀ y ∈ xs, y.2 ≠ x.2) :
    (enter x xs).Pairwise fun a b => precedes a b = true := by
  induction xs with
  | nil => exact List.pairwise_singleton _ _
  | cons z rest ih =>
    have hz := List.pairwise_cons.mp ordered
    by_cases h : precedes x z = true
    · simp only [enter, if_pos h]
      refine List.pairwise_cons.mpr ⟨?_, ordered⟩
      intro y hy
      rcases List.mem_cons.mp hy with rfl | hy
      · exact h
      · exact precedes_trans h (hz.1 y hy)
    · simp only [enter, if_neg h]
      refine List.pairwise_cons.mpr ⟨?_, ih hz.2 (fun y hy => fresh y (by simp [hy]))⟩
      intro y hy
      rcases mem_enter.mp hy with rfl | hy
      · exact precedes_total (fun e => fresh z (by simp) e.symm) h
      · exact hz.1 y hy

/-! ## Coherence -/

structure Coherent (q : TimerQueue) : Prop where
  ordered : q.expiries.Pairwise fun a b => precedes a b = true
  /-- No handle has two expiries. -/
  single : (q.expiries.map (·.2)).Nodup
  /-- Every timer has the expiry of its deadline. -/
  covered : ∀ (h : Handle) (t : Timer), q.timers[h]? = some t → (t.deadline, h) ∈ q.expiries
  given : ∀ x ∈ q.expiries, x.2 < q.nextHandle

variable {q : TimerQueue}

theorem eq_of_same_handle {xs : List (Instant × Handle)} (single : (xs.map (·.2)).Nodup)
    {x y : Instant × Handle} (hx : x ∈ xs) (hy : y ∈ xs) (h : x.2 = y.2) : x = y :=
  List.inj_on_of_nodup_map single hx hy h

namespace Coherent

theorem empty : Coherent TimerQueue.empty where
  ordered := List.Pairwise.nil
  single := List.nodup_nil
  covered := by
    intro h t ht
    simp [TimerQueue.empty] at ht
  given := by
    intro x hx
    simp [TimerQueue.empty] at hx

/-- The expiry of a timer is the one at its deadline. -/
theorem eq_deadline (c : Coherent q) {x : Instant × Handle} {t : Timer} (hx : x ∈ q.expiries)
    (ht : q.timers[x.2]? = some t) : x.1 = t.deadline := by
  have h := eq_of_same_handle c.single hx (c.covered x.2 t ht) rfl
  exact congrArg Prod.fst h

theorem isLive_iff (c : Coherent q) {x : Instant × Handle} (hx : x ∈ q.expiries) :
    q.isLive x = true ↔ ∃ t, q.timers[x.2]? = some t := by
  unfold isLive
  cases ht : q.timers[x.2]? with
  | none => simp
  | some t => simp [c.eq_deadline hx ht]

/-- The expiries under a handle: one for a timer. -/
theorem expiries_of_timer (c : Coherent q) {h : Handle} {t : Timer} (ht : q.timers[h]? = some t) :
    q.expiries.filter (fun x => x.2 == h) = [(t.deadline, h)] := by
  have hnodup : (q.expiries.filter fun x => x.2 == h).Nodup :=
    (List.Nodup.of_map _ c.single).filter _
  have hall : ∀ x ∈ q.expiries.filter (fun x => x.2 == h), x = (t.deadline, h) := by
    intro x hx
    obtain ⟨hmem, heq⟩ := List.mem_filter.mp hx
    exact eq_of_same_handle c.single hmem (c.covered h t ht) (by simpa using heq)
  have hmem : (t.deadline, h) ∈ q.expiries.filter (fun x => x.2 == h) :=
    List.mem_filter.mpr ⟨c.covered h t ht, by simp⟩
  cases hxs : q.expiries.filter (fun x => x.2 == h) with
  | nil => rw [hxs] at hmem; simp at hmem
  | cons a rest =>
    rw [hxs] at hall hnodup
    have ha := hall a (by simp)
    subst ha
    cases rest with
    | nil => rfl
    | cons b rest =>
      have hb := hall b (by simp)
      subst hb
      simp at hnodup

/-! ## The operations -/

/-- A timer entered anew under an old handle that is not in use. -/
theorem reenter (c : Coherent q) {h : Handle} (t : Timer) (old : h < q.nextHandle)
    (unused : ∀ y ∈ q.expiries, y.2 ≠ h) :
    Coherent { q with
      timers := q.timers.insert h t, expiries := enter (t.deadline, h) q.expiries } where
  ordered := enter_ordered c.ordered unused
  single := by
    have hperm := (handles_enter_perm (t.deadline, h) q.expiries).map (·.2)
    refine hperm.nodup_iff.mpr (List.nodup_cons.mpr ⟨?_, c.single⟩)
    intro hmem
    obtain ⟨y, hy, heq⟩ := List.mem_map.mp hmem
    exact unused y hy heq
  covered := by
    intro k u hu
    simp only [Std.ExtTreeMap.getElem?_insert] at hu
    refine mem_enter.mpr ?_
    by_cases hk : h = k
    · subst hk
      simp only [Std.ReflCmp.compare_self, if_true, Option.some.injEq] at hu
      subst hu
      exact Or.inl rfl
    · rw [if_neg (by simpa using hk)] at hu
      exact Or.inr (c.covered k u hu)
  given := by
    intro x hx
    rcases mem_enter.mp hx with rfl | hx
    · exact old
    · exact c.given x hx

/-- A queue that has given more handles than it knows of. -/
theorem skip (c : Coherent q) : Coherent { q with nextHandle := q.nextHandle + 1 } where
  ordered := c.ordered
  single := c.single
  covered := c.covered
  given := fun x hx => Nat.lt_succ_of_lt (c.given x hx)

theorem arm (c : Coherent q) (kind : TimerKind) (deadline : Instant) :
    Coherent (q.arm kind deadline).2 :=
  c.skip.reenter ⟨kind, deadline⟩ (Nat.lt_succ_self q.nextHandle)
    fun y hy => Nat.ne_of_lt (c.given y hy)

theorem cancel (c : Coherent q) (handle : Handle) : Coherent (q.cancel handle).2 where
  ordered := c.ordered
  single := c.single
  covered := by
    intro h t ht
    simp only [TimerQueue.cancel, Std.ExtTreeMap.getElem?_erase] at ht
    split at ht
    · cases ht
    · exact c.covered h t ht
  given := c.given

theorem settle (c : Coherent q) : Coherent q.settle where
  ordered := c.ordered.sublist (List.dropWhile_sublist _)
  single := c.single.sublist ((List.dropWhile_sublist _).map _)
  covered := by
    intro h t ht
    have hmem := c.covered h t ht
    rw [← List.takeWhile_append_dropWhile (p := fun x => !q.isLive x) (l := q.expiries)] at hmem
    rcases List.mem_append.mp hmem with hdead | hkept
    · have hlive := (c.isLive_iff (c.covered h t ht)).mpr ⟨t, ht⟩
      have := List.mem_takeWhile_imp hdead
      simp [hlive] at this
    · exact hkept
  given := fun x hx => c.given x ((List.dropWhile_sublist _).subset hx)

/-- A settled queue without expiries has no timers. -/
theorem timers_of_settle_nil (c : Coherent q) (hnil : q.settle.expiries = []) (h : Handle) :
    q.timers[h]? = none := by
  cases ht : q.timers[h]? with
  | none => rfl
  | some t =>
    have hmem := c.settle.covered h t ht
    rw [hnil] at hmem
    cases hmem

/-- The first expiry of a settled queue is that of a timer. -/
theorem timer_of_settle_cons (c : Coherent q) {x : Instant × Handle}
    {rest : List (Instant × Handle)} (hcons : q.settle.expiries = x :: rest) :
    ∃ t, q.timers[x.2]? = some t ∧ t.deadline = x.1 := by
  have hlive : q.isLive x = true := by
    have hhead := List.head?_dropWhile_not (fun x => !q.isLive x) q.expiries
    have hdrop : q.expiries.dropWhile (fun x => !q.isLive x) = x :: rest := hcons
    rw [hdrop] at hhead
    simpa using hhead
  have hmem : x ∈ q.expiries :=
    (List.dropWhile_sublist _).subset (show x ∈ q.settle.expiries by rw [hcons]; simp)
  obtain ⟨t, ht⟩ := (c.isLive_iff hmem).mp hlive
  exact ⟨t, ht, (c.eq_deadline hmem ht).symm⟩

/-- No timer comes before the first expiry of a settled queue. -/
theorem first_of_settle_cons (c : Coherent q) {x : Instant × Handle}
    {rest : List (Instant × Handle)} (hcons : q.settle.expiries = x :: rest)
    {h : Handle} {t : Timer} (ht : q.timers[h]? = some t) :
    (t.deadline, h) = x ∨ precedes x (t.deadline, h) = true := by
  have hmem := c.settle.covered h t ht
  have hordered := c.settle.ordered
  rw [hcons] at hmem hordered
  rcases List.mem_cons.mp hmem with heq | hmem
  · exact Or.inl heq
  · exact Or.inr ((List.pairwise_cons.mp hordered).1 _ hmem)

end Coherent

/-! ## The first timer -/

/-- A timer that is due no later than any other, and armed first among those due with it. -/
def IsFirst (timers : Std.ExtTreeMap Handle Timer) (h : Handle) (t : Timer) : Prop :=
  timers[h]? = some t ∧ ∀ (k : Handle) (u : Timer), timers[k]? = some u →
    t.deadline < u.deadline ∨ (t.deadline = u.deadline ∧ h ≤ k)

/-- The timers after one of them fired: a repeating one goes on at its next boundary. -/
def afterFiring (timers : Std.ExtTreeMap Handle Timer) (now : Instant) (h : Handle) (t : Timer) :
    Std.ExtTreeMap Handle Timer :=
  match t.kind with
  | .once => timers.erase h
  | .every period =>
    timers.insert h ⟨.every period, Time.nextBoundary t.deadline period now⟩

namespace Coherent

theorem isFirst_of_settle_cons (c : Coherent q) {x : Instant × Handle}
    {rest : List (Instant × Handle)} (hcons : q.settle.expiries = x :: rest) :
    ∃ t, t.deadline = x.1 ∧ IsFirst q.timers x.2 t := by
  obtain ⟨t, ht, hdeadline⟩ := c.timer_of_settle_cons hcons
  refine ⟨t, hdeadline, ht, ?_⟩
  intro k u hu
  rcases c.first_of_settle_cons hcons hu with rfl | hbefore
  · exact Or.inr ⟨hdeadline, Nat.le_refl _⟩
  · rcases precedes_iff.mp hbefore with hlt | ⟨heq, hlt⟩
    · exact Or.inl (hdeadline ▸ hlt)
    · exact Or.inr ⟨hdeadline.trans heq, Nat.le_of_lt hlt⟩

/-- The next deadline is that of the first timer, and looking for it changes no timer. -/
theorem nextDeadline_cases (c : Coherent q) :
    (q.nextDeadline = (none, q.settle) ∧ ∀ h : Handle, q.timers[h]? = none) ∨
    ∃ h t, q.nextDeadline = (some t.deadline, q.settle) ∧ IsFirst q.timers h t := by
  cases hcons : q.settle.expiries with
  | nil =>
    refine Or.inl ⟨?_, c.timers_of_settle_nil hcons⟩
    simp [nextDeadline, hcons]
  | cons x rest =>
    obtain ⟨t, hdeadline, hfirst⟩ := c.isFirst_of_settle_cons hcons
    refine Or.inr ⟨x.2, t, ?_, hfirst⟩
    simp [nextDeadline, hcons, hdeadline]

/-- Without its first expiry and its timer a coherent queue is coherent. -/
theorem drop_first (c : Coherent q) {x : Instant × Handle} {rest : List (Instant × Handle)}
    (hcons : q.expiries = x :: rest) :
    Coherent { q with timers := q.timers.erase x.2, expiries := rest } where
  ordered := (List.pairwise_cons.mp (hcons ▸ c.ordered)).2
  single := by
    have hsingle := c.single
    rw [hcons, List.map_cons] at hsingle
    exact (List.nodup_cons.mp hsingle).2
  covered := by
    intro h t ht
    simp only [Std.ExtTreeMap.getElem?_erase] at ht
    split at ht
    · cases ht
    · rename_i hne
      have hmem := c.covered h t ht
      rw [hcons] at hmem
      rcases List.mem_cons.mp hmem with rfl | hmem
      · simp at hne
      · exact hmem
  given := fun y hy => c.given y (by rw [hcons]; exact List.mem_cons_of_mem x hy)

theorem erase_insert (timers : Std.ExtTreeMap Handle Timer) (h : Handle) (t : Timer) :
    (timers.erase h).insert h t = timers.insert h t := by
  refine Std.ExtTreeMap.ext_getElem? ?_
  intro k
  by_cases hk : h = k
  · subst hk; simp
  · simp [Std.ExtTreeMap.getElem?_insert, Std.ExtTreeMap.getElem?_erase, hk]

/-- A queue gives nothing if no timer is due, and then keeps all of them. Otherwise it gives the
first timer, and nothing else changes but that timer. -/
theorem popDue_cases (c : Coherent q) (now : Instant) :
    (q.popDue now = (none, q.settle) ∧
      ∀ (h : Handle) (t : Timer), q.timers[h]? = some t → now < t.deadline) ∨
    ∃ h t, IsFirst q.timers h t ∧ t.deadline ≤ now ∧ (q.popDue now).1 = some h ∧
      (q.popDue now).2.nextHandle = q.nextHandle ∧
      (q.popDue now).2.timers = afterFiring q.timers now h t ∧ Coherent (q.popDue now).2 := by
  cases hcons : q.settle.expiries with
  | nil =>
    refine Or.inl ⟨by simp [popDue, hcons], ?_⟩
    intro h t ht
    rw [c.timers_of_settle_nil hcons h] at ht
    cases ht
  | cons x rest =>
    obtain ⟨t, hdeadline, hfirst⟩ := c.isFirst_of_settle_cons hcons
    have ht : q.settle.timers[x.2]? = some t := hfirst.1
    by_cases hlate : now < x.1
    · refine Or.inl ⟨by simp [popDue, hcons, hlate], ?_⟩
      intro k u hu
      have hle : x.1 ≤ u.deadline := by
        rcases hfirst.2 k u hu with hlt | heq
        · exact hdeadline ▸ Nat.le_of_lt hlt
        · exact hdeadline ▸ Nat.le_of_eq heq.1
      exact Nat.lt_of_lt_of_le hlate hle
    · refine Or.inr ⟨x.2, t, hfirst, hdeadline ▸ Nat.le_of_not_lt hlate, ?_⟩
      have hdropped := c.settle.drop_first hcons
      have hunused : ∀ y ∈ rest, y.2 ≠ x.2 := by
        have hsingle := c.settle.single
        rw [hcons, List.map_cons] at hsingle
        intro y hy heq
        exact (List.nodup_cons.mp hsingle).1 (heq ▸ List.mem_map_of_mem hy)
      cases hkind : t.kind with
      | once =>
        have hpop : q.popDue now =
            (some x.2,
              { q.settle with timers := q.settle.timers.erase x.2, expiries := rest }) := by
          simp only [popDue, hcons, if_neg hlate, ht, hkind]
        rw [hpop]
        exact ⟨rfl, rfl, by simp only [afterFiring, hkind]; rfl, hdropped⟩
      | every period =>
        let next : Timer := ⟨.every period, Time.nextBoundary x.1 period now⟩
        have hpop : q.popDue now = (some x.2, { q.settle with
            timers := q.settle.timers.insert x.2 next
            expiries := enter (next.deadline, x.2) rest }) := by
          simp only [popDue, hcons, if_neg hlate, ht, hkind, next]
        have hold : x.2 < q.nextHandle := c.settle.given x (by rw [hcons]; simp)
        have hentered := hdropped.reenter next hold hunused
        rw [erase_insert] at hentered
        rw [hpop]
        refine ⟨rfl, rfl, ?_, hentered⟩
        simp only [afterFiring, hkind, hdeadline, next]
        rfl

theorem popDue_none (c : Coherent q) {now : Instant} {q' : TimerQueue}
    (hpop : q.popDue now = (none, q')) :
    q' = q.settle ∧ ∀ (h : Handle) (t : Timer), q.timers[h]? = some t → now < t.deadline := by
  rcases c.popDue_cases now with ⟨hsettle, hlate⟩ | ⟨h, t, _, _, hsome, _⟩
  · rw [hpop] at hsettle
    exact ⟨congrArg Prod.snd hsettle, hlate⟩
  · rw [hpop] at hsome
    cases hsome

theorem popDue_some (c : Coherent q) {now : Instant} {h : Handle} {q' : TimerQueue}
    (hpop : q.popDue now = (some h, q')) :
    ∃ t, IsFirst q.timers h t ∧ t.deadline ≤ now ∧ q'.nextHandle = q.nextHandle ∧
      q'.timers = afterFiring q.timers now h t ∧ Coherent q' := by
  rcases c.popDue_cases now with ⟨hnone, _⟩ | ⟨k, t, hfirst, hdue, hsome, hnext, htimers, c'⟩
  · rw [hpop] at hnone
    cases hnone
  · rw [hpop] at hsome hnext htimers c'
    cases hsome
    exact ⟨t, hfirst, hdue, hnext, htimers, c'⟩

end Coherent

/-! ## The timer under one handle -/

section

variable {h k : Handle} {t : Timer}

theorem isActive_eq (q : TimerQueue) (h : Handle) : q.isActive h = q.timers[h]?.isSome :=
  Std.ExtTreeMap.contains_eq_isSome_getElem?

theorem getElem?_arm (kind : TimerKind) (deadline : Instant) :
    (q.arm kind deadline).2.timers[k]? =
      if q.nextHandle = k then some ⟨kind, deadline⟩ else q.timers[k]? := by
  simp only [TimerQueue.arm, Std.ExtTreeMap.getElem?_insert, Std.LawfulEqCmp.compare_eq_iff_eq]

theorem getElem?_cancel :
    (q.cancel h).2.timers[k]? = if h = k then none else q.timers[k]? := by
  simp only [TimerQueue.cancel, Std.ExtTreeMap.getElem?_erase, Std.LawfulEqCmp.compare_eq_iff_eq]

theorem getElem?_afterFiring_of_ne {timers : Std.ExtTreeMap Handle Timer} (now : Instant)
    (t : Timer) (hne : k ≠ h) : (afterFiring timers now h t)[k]? = timers[k]? := by
  unfold afterFiring
  split
  · rw [Std.ExtTreeMap.getElem?_erase, if_neg (by simpa using hne.symm)]
  · rw [Std.ExtTreeMap.getElem?_insert, if_neg (by simpa using hne.symm)]

theorem getElem?_afterFiring_once {timers : Std.ExtTreeMap Handle Timer} (now : Instant)
    (hkind : t.kind = .once) : (afterFiring timers now h t)[h]? = none := by
  simp only [afterFiring, hkind, Std.ExtTreeMap.getElem?_erase_self]

theorem getElem?_afterFiring_every {timers : Std.ExtTreeMap Handle Timer} (now : Instant)
    {period : Duration} (hkind : t.kind = .every period) :
    (afterFiring timers now h t)[h]? =
      some ⟨.every period, Time.nextBoundary t.deadline period now⟩ := by
  simp only [afterFiring, hkind, Std.ExtTreeMap.getElem?_insert_self]

end

/-! ## Queues with one timer at most -/

/-- A coherent queue without timers. -/
structure Bare (q : TimerQueue) : Prop where
  coherent : Coherent q
  none : ∀ k : Handle, q.timers[k]? = none

/-- A coherent queue with one timer and no other. -/
structure Sole (q : TimerQueue) (h : Handle) (t : Timer) : Prop where
  coherent : Coherent q
  only : ∀ (k : Handle) (u : Timer), q.timers[k]? = some u ↔ k = h ∧ u = t

variable {h : Handle} {t : Timer}

theorem Bare.isEmpty (bare : Bare q) : q.isEmpty = true := by
  have hempty : q.timers = ∅ := Std.ExtTreeMap.ext_getElem? fun k => by simp [bare.none k]
  rw [TimerQueue.isEmpty, hempty]
  exact Std.ExtTreeMap.isEmpty_empty

theorem Coherent.bare (c : Coherent q) (hempty : q.isEmpty = true) : Bare q where
  coherent := c
  none := by
    intro k
    rw [Std.ExtTreeMap.isEmpty_iff.mp hempty]
    simp

theorem Coherent.bare_of_expiries (c : Coherent q) (hnil : q.expiries = []) : Bare q where
  coherent := c
  none := by
    intro k
    cases ht : q.timers[k]? with
    | none => rfl
    | some t =>
      have hmem := c.covered k t ht
      rw [hnil] at hmem
      cases hmem

theorem Bare.arm (bare : Bare q) (kind : TimerKind) (deadline : Instant) :
    Sole (q.arm kind deadline).2 q.nextHandle ⟨kind, deadline⟩ where
  coherent := bare.coherent.arm kind deadline
  only := by
    intro k u
    simp only [TimerQueue.arm, Std.ExtTreeMap.getElem?_insert]
    by_cases hk : q.nextHandle = k
    · subst hk
      simp [eq_comm]
    · rw [if_neg (by simpa using hk), bare.none k]
      simp [Ne.symm hk]

theorem Bare.cancel (bare : Bare q) (h : Handle) : Bare (q.cancel h).2 where
  coherent := bare.coherent.cancel h
  none := by
    intro k
    simp [TimerQueue.cancel, Std.ExtTreeMap.getElem?_erase, bare.none k]

theorem bare_of_erase (sole : Sole q h t) {q' : TimerQueue} (c' : Coherent q')
    (hq' : q'.timers = q.timers.erase h) : Bare q' where
  coherent := c'
  none := by
    intro k
    rw [hq', Std.ExtTreeMap.getElem?_erase]
    split
    · rfl
    · rename_i hne
      cases hk : q.timers[k]? with
      | none => rfl
      | some u =>
        have heq := ((sole.only k u).mp hk).1
        simp [heq] at hne

theorem Sole.cancel (sole : Sole q h t) : Bare (q.cancel h).2 :=
  bare_of_erase sole (sole.coherent.cancel h) rfl

theorem Sole.settle (sole : Sole q h t) : Sole q.settle h t where
  coherent := sole.coherent.settle
  only := sole.only

theorem Sole.of_isFirst (sole : Sole q h t) {k : Handle} {u : Timer}
    (hfirst : IsFirst q.timers k u) : k = h ∧ u = t :=
  (sole.only k u).mp hfirst.1

theorem Sole.nextDeadline (sole : Sole q h t) : q.nextDeadline.1 = some t.deadline := by
  rcases sole.coherent.nextDeadline_cases with ⟨_, hnone⟩ | ⟨k, u, hnext, hfirst⟩
  · have ht := (sole.only h t).mpr ⟨rfl, rfl⟩
    rw [hnone h] at ht
    cases ht
  · rw [hnext, (sole.of_isFirst hfirst).2]

theorem Sole.popDue_early (sole : Sole q h t) {now : Instant} (hearly : now < t.deadline) :
    q.popDue now = (none, q.settle) := by
  rcases sole.coherent.popDue_cases now with ⟨hpop, _⟩ | ⟨k, u, hfirst, hdue, _⟩
  · exact hpop
  · rw [(sole.of_isFirst hfirst).2] at hdue
    exact False.elim (Nat.not_lt_of_le hdue hearly)

theorem Sole.popDue_due (sole : Sole q h t) {now : Instant} (hdue : t.deadline ≤ now) :
    (q.popDue now).1 = some h ∧ (q.popDue now).2.timers = afterFiring q.timers now h t ∧
      Coherent (q.popDue now).2 := by
  rcases sole.coherent.popDue_cases now with ⟨_, hlate⟩ | ⟨k, u, hfirst, _, hpop, _, htimers, c⟩
  · have hearly := hlate h t ((sole.only h t).mpr ⟨rfl, rfl⟩)
    exact False.elim (Nat.not_lt_of_le hdue hearly)
  · obtain ⟨rfl, rfl⟩ := sole.of_isFirst hfirst
    exact ⟨hpop, htimers, c⟩

theorem Sole.popDue_once {deadline now : Instant} (sole : Sole q h ⟨.once, deadline⟩)
    (hdue : deadline ≤ now) : ∃ q', q.popDue now = (some h, q') ∧ Bare q' := by
  obtain ⟨hpop, htimers, c⟩ := sole.popDue_due hdue
  exact ⟨_, Prod.ext hpop rfl, bare_of_erase sole c htimers⟩

/-- A repeating timer that is popped goes on at its next boundary. -/
theorem Sole.popDue_repeating {period deadline now : Instant}
    (sole : Sole q h ⟨.every period, deadline⟩) (hdue : deadline ≤ now) :
    ∃ q', q.popDue now = (some h, q') ∧
      Sole q' h ⟨.every period, Time.nextBoundary deadline period now⟩ := by
  obtain ⟨hpop, htimers, c⟩ := sole.popDue_due hdue
  refine ⟨_, Prod.ext hpop rfl, c, ?_⟩
  intro k u
  by_cases hk : k = h
  · subst hk
    rw [htimers, getElem?_afterFiring_every now rfl]
    simp [eq_comm]
  · rw [htimers, getElem?_afterFiring_of_ne now _ hk, sole.only k u]
    simp [hk]

/-- A repeating timer that is popped at its deadline goes on one period later. -/
theorem Sole.popDue_every {period deadline : Instant} (hperiod : 0 < period)
    (sole : Sole q h ⟨.every period, deadline⟩) :
    ∃ q', q.popDue deadline = (some h, q') ∧ Sole q' h ⟨.every period, deadline + period⟩ := by
  have hnext : Time.nextBoundary deadline period deadline = deadline + period := by
    rw [Time.nextBoundary, if_pos (Nat.lt_add_of_pos_right hperiod)]
  rw [← hnext]
  exact sole.popDue_repeating (Nat.le_refl deadline)

end PacedImages.TimerQueue
