import PacedImages.Proofs.BenchClock
import PacedImages.Proofs.Publisher.Settings
import PacedImages.Proofs.Publisher.Steps
import PacedImages.Proofs.Time.TimerSet
import PacedImages.Proofs.VirtualClock

/-!
# The schedule of a publisher

Under a virtual clock a publisher that starts at `t₀` hands over its images at the start delay and
one, two, three periods after `t₀`, until it has handed over all of them or shutdown is requested
from outside. Main statement: the loop that drives it ends in either case, at that very instant.
-/

namespace PacedImages.Publisher

open TimerQueue (Bare Sole)

variable {β : Type} {w : World (StateM β)} {exact : Instant → Prop} {external : Option Instant}
  {shows : β → Moment → Prop} {p : Publisher} {q : TimerQueue} {b : β} {v : Moment}

/-! ## Single steps -/

theorem shows_account (virtual : VirtualClock w exact external shows) (hb : shows b v)
    (result : Except TransportError Unit) (seconds : Float) :
    shows (account w p result seconds b).2 v := by
  cases result with
  | ok u => exact virtual.note _ (virtual.count _ hb)
  | error e => exact virtual.note _ (virtual.count _ hb)

theorem shows_delayElapsed (virtual : VirtualClock w exact external shows) (hb : shows b v)
    (hphase : p.phase = .delaying) (bare : Bare q) :
    ∃ q' b', delayElapsed w p q b = (({ p with
        delayTimer := none, publishTimer := some q.nextHandle, phase := .publishing }, q'), b') ∧
      shows b' v ∧ Sole q' q.nextHandle ⟨.every (max p.settings.period Time.minPeriod),
        v.clock + max p.settings.period Time.minPeriod⟩ := by
  obtain ⟨hclock, hread⟩ := virtual.now hb
  have bare' : Bare (cancelTimer p.delayTimer q) := by
    cases p.delayTimer with
    | none => exact bare
    | some h => exact bare.cancel h
  have hnext := nextHandle_cancelTimer p.delayTimer q
  have hsole := bare'.arm (.every (max p.settings.period Time.minPeriod))
    (v.clock + max p.settings.period Time.minPeriod)
  rw [hnext] at hsole
  have hstep := delayElapsed_eq w p q b hphase
  simp only [TimerQueue.scheduleEvery, hclock] at hstep
  rw [show ∀ kind deadline, ((cancelTimer p.delayTimer q).arm kind deadline).1 = q.nextHandle from
    fun _ _ => hnext] at hstep
  exact ⟨_, _, hstep, virtual.note _ hread, hsole⟩

theorem shows_terminate (virtual : VirtualClock w exact external shows) (hb : shows b v)
    (hphase : p.phase ≠ .terminated) (hdelay : p.delayTimer = none) {h : Handle} {t : Timer}
    (htimer : p.publishTimer = some h) (sole : Sole q h t) :
    ∃ q' b', terminate w p q b = (({ p with
        delayTimer := none, publishTimer := none, phase := .terminated }, q'), b') ∧
      shows b' { v with stopped := true } ∧ Bare q' := by
  refine ⟨_, _, terminate_eq w p q b hphase, virtual.requestShutdown (virtual.note _ hb), ?_⟩
  rw [hdelay, htimer]
  exact sole.cancel

/-- An image is handed over now; with the last one the publisher ends. -/
theorem shows_tick (virtual : VirtualClock w exact external shows) (hb : shows b v)
    (hphase : p.phase = .publishing) :
    ∃ stamper b', shows b' { v with sent := v.sent ++ [v.clock] } ∧
      tick w p q b =
        let next := { p with stamper, published := p.published + 1 }
        if p.settings.maxCount ≤ p.published + 1 then terminate w next q b'
        else ((next, q), b') := by
  let stamped := p.stamper.stamp (w.reading b).1
  let image := Image.square stamped.1 p.settings.dimension p.payload
  let next := { p with stamper := stamped.2, published := p.published + 1 }
  have hsent := virtual.publish p.outlet.subject image.data image.headers (virtual.reading hb)
  have hcounted := shows_account (p := next) virtual hsent
    (w.publish p.outlet.subject image.data image.headers (w.reading b).2).1.1
    (w.publish p.outlet.subject image.data image.headers (w.reading b).2).1.2
  exact ⟨stamped.2, _, hcounted, tick_eq w p q b hphase⟩

/-- A start that succeeds takes no time and arms the start delay. -/
theorem shows_start (virtual : VirtualClock w exact external shows) (hb : shows b v)
    {name topic : String} {settings : Settings} {depth : Nat} {book : SubjectBook}
    {q₁ : TimerQueue} {b₁ : β}
    (hstart : (start w name topic settings depth book q).run b = (.ok (p, q₁), b₁)) :
    settings.validate = .ok () ∧
      (∃ outlet payload, p = launched name settings outlet payload q.nextHandle) ∧
      q₁ = (q.arm .once (v.clock + settings.startDelay)).2 ∧ shows b₁ v := by
  obtain ⟨hvalid, subject, size, payload, _, _, _, _, hlaunch⟩ := start_ok w p q b hstart
  have hreserved := virtual.reserve size
    (virtual.note (advertisedEntry topic subject depth) (virtual.advertise subject depth hb))
  have hdrawn := virtual.drawKey hreserved
  obtain ⟨hclock, hread⟩ := virtual.now (virtual.count (·.touch name) (virtual.note _ hdrawn))
  obtain ⟨hbegun, rfl⟩ := Prod.mk.inj hlaunch
  obtain ⟨hp, hq₁⟩ := Prod.mk.inj hbegun
  refine ⟨hvalid, ⟨⟨topic, subject, depth⟩, payload, hp.symm⟩, ?_, virtual.note _ hread⟩
  rw [← hq₁, hclock]
  rfl

/-! ## The rounds of the loop -/

/-- The time between two images. -/
def pace (s : Settings) : Duration := max s.period Time.minPeriod

theorem pace_pos (s : Settings) : 0 < pace s :=
  Nat.lt_of_lt_of_le (by decide) (Nat.le_max_right s.period Time.minPeriod)

/-- `k` periods after `T` a publisher has handed over `k` images and waits for the next boundary. -/
structure Pacing (shows : β → Moment → Prop) (T : Instant) (k : Nat) (p : Publisher)
    (q : TimerQueue) (b : β) (v : Moment) : Prop where
  phase : p.phase = .publishing
  noDelay : p.delayTimer = none
  published : p.published.toNat = k
  timer : ∃ h, p.publishTimer = some h ∧
    Sole q h ⟨.every (pace p.settings), T + (k + 1) * pace p.settings⟩
  shown : shows b v
  clock : v.clock = T + k * pace p.settings
  running : v.stopped = false

variable {T : Instant} {k : Nat}

theorem Pacing.next_le (pacing : Pacing shows T k p q b v) :
    v.clock ≤ T + (k + 1) * pace p.settings := by
  rw [pacing.clock]
  exact Nat.add_le_add_left (Nat.mul_le_mul_right _ (Nat.le_succ k)) T

theorem Pacing.run_cut (virtual : VirtualClock w exact external shows)
    (pacing : Pacing shows T k p q b v) {s : Instant} (hs : external = some s)
    (hlt : v.clock < s) (hcut : s < T + (k + 1) * pace p.settings)
    (hexact : exact (T + (k + 1) * pace p.settings)) (fuel : Nat) :
    ∃ q' b', shows b' { v with clock := s, stopped := true } ∧
      Dispatch.run w (onTimer w) (fuel + 1) .waiting p q b = ((some .shutdown, p, q'), b') := by
  obtain ⟨h, htimer, sole⟩ := pacing.timer
  obtain ⟨b', hb', hrun⟩ := virtual.run_cut (onTimer w) p fuel
    pacing.shown pacing.running sole.nextDeadline hs hlt hcut hexact
  exact ⟨q.settle, b', hb', hrun⟩

theorem Pacing.published_succ (pacing : Pacing shows T k p q b v)
    (hcount : k < p.settings.maxCount.toNat) : (p.published + 1).toNat = k + 1 := by
  have hlt := p.settings.maxCount.toNat_lt
  rw [UInt32.toNat_add, pacing.published, UInt32.toNat_one]
  omega

/-- The loop sleeps to the next boundary, where an image is handed over. -/
theorem Pacing.run_wake (virtual : VirtualClock w exact external shows)
    (pacing : Pacing shows T k p q b v)
    (hbefore : precedesRequest external (T + (k + 1) * pace p.settings) = true)
    (hexact : exact (T + (k + 1) * pace p.settings)) (fuel : Nat) :
    ∃ h q' b₁ stamper b', p.publishTimer = some h ∧
      Dispatch.run w (onTimer w) (fuel + 1) .waiting p q b =
        Dispatch.run w (onTimer w) fuel (.batch (T + (k + 1) * pace p.settings)) p q.settle b₁ ∧
      q.settle.popDue (T + (k + 1) * pace p.settings) = (some h, q') ∧
      Sole q' h ⟨.every (pace p.settings),
        T + (k + 1) * pace p.settings + pace p.settings⟩ ∧
      shows b' { v with
        clock := T + (k + 1) * pace p.settings
        sent := v.sent ++ [T + (k + 1) * pace p.settings] } ∧
      onTimer w h p q' b₁ =
        let next := { p with stamper, published := p.published + 1 }
        if p.settings.maxCount ≤ p.published + 1 then terminate w next q' b'
        else ((next, q'), b') := by
  obtain ⟨h, htimer, sole⟩ := pacing.timer
  obtain ⟨b₁, hb₁, hsleep⟩ := virtual.run_sleep (onTimer w) p fuel
    pacing.shown pacing.running sole.nextDeadline pacing.next_le hexact hbefore
  obtain ⟨q', hpop, sole'⟩ := sole.settle.popDue_every (pace_pos p.settings)
  obtain ⟨stamper, b', hb', htick⟩ := shows_tick (q := q') virtual hb₁ pacing.phase
  rw [← onTimer_publishing w p q' pacing.phase htimer] at htick
  exact ⟨h, q', b₁, stamper, b', htimer, hsleep, hpop, sole', hb', htick⟩

/-- From one boundary to the next one image is handed over. -/
theorem Pacing.run_next (virtual : VirtualClock w exact external shows)
    (pacing : Pacing shows T k p q b v) (hmore : k + 1 < p.settings.maxCount.toNat)
    (hbefore : precedesRequest external (T + (k + 1) * pace p.settings) = true)
    (hexact : exact (T + (k + 1) * pace p.settings)) (fuel : Nat) :
    ∃ stamper q' b', let p' := { p with stamper, published := p.published + 1 }
      Pacing shows T (k + 1) p' q' b' { v with
        clock := T + (k + 1) * pace p.settings
        sent := v.sent ++ [T + (k + 1) * pace p.settings] } ∧
      Dispatch.run w (onTimer w) (fuel + 3) .waiting p q b =
        Dispatch.run w (onTimer w) fuel .waiting p' q' b' := by
  obtain ⟨h, q₂, b₁, stamper, b₂, htimer, hsleep, hpop, sole₂, hb₂, hfired⟩ :=
    pacing.run_wake virtual hbefore hexact (fuel + 2)
  have hsucc := pacing.published_succ (Nat.lt_of_succ_lt hmore)
  have hnotlast : ¬ p.settings.maxCount ≤ p.published + 1 := by
    rw [UInt32.le_iff_toNat_le, hsucc]
    exact Nat.not_le_of_lt hmore
  simp only [if_neg hnotlast] at hfired
  obtain ⟨b₃, hb₃, hfire⟩ := virtual.run_fire (fuel + 1) hpop hfired hb₂
  have hearly := sole₂.popDue_early (Nat.lt_add_of_pos_right (pace_pos p.settings))
  have hstep : T + (k + 1) * pace p.settings + pace p.settings =
      T + (k + 1 + 1) * pace p.settings := by
    rw [Nat.succ_mul (k + 1), Nat.add_assoc]
  refine ⟨stamper, q₂.settle, b₃, ?_, ?_⟩
  · exact
      { phase := pacing.phase
        noDelay := pacing.noDelay
        published := hsucc
        timer := ⟨h, htimer, hstep ▸ sole₂.settle⟩
        shown := hb₃
        clock := rfl
        running := pacing.running }
  · rw [hsleep, hfire]
    simp only [pacing.running, Bool.false_eq_true, if_false]
    rw [Dispatch.run_batch, hearly]

/-- At the last boundary the last image is handed over, and the loop ends there. -/
theorem Pacing.run_last (virtual : VirtualClock w exact external shows)
    (pacing : Pacing shows T k p q b v) (hlast : k + 1 = p.settings.maxCount.toNat)
    (hbefore : precedesRequest external (T + (k + 1) * pace p.settings) = true)
    (hexact : exact (T + (k + 1) * pace p.settings)) (fuel : Nat) :
    ∃ p' q' b', p'.phase = .terminated ∧ p'.published.toNat = k + 1 ∧ Bare q' ∧
      shows b' { v with
        clock := T + (k + 1) * pace p.settings
        stopped := true
        sent := v.sent ++ [T + (k + 1) * pace p.settings] } ∧
      Dispatch.run w (onTimer w) (fuel + 2) .waiting p q b = ((some .shutdown, p', q'), b') := by
  obtain ⟨h, q₂, b₁, stamper, b₂, htimer, hsleep, hpop, sole₂, hb₂, hfired⟩ :=
    pacing.run_wake virtual hbefore hexact (fuel + 1)
  have hsucc := pacing.published_succ (by omega)
  have hle : p.settings.maxCount ≤ p.published + 1 := by
    rw [UInt32.le_iff_toNat_le, hsucc]
    exact Nat.le_of_eq hlast.symm
  obtain ⟨q₃, b₃, hend, hb₃, bare⟩ := shows_terminate
    (p := { p with stamper, published := p.published + 1 }) virtual hb₂
    (by simp [pacing.phase]) pacing.noDelay htimer sole₂
  simp only [if_pos hle, hend] at hfired
  obtain ⟨b₄, hb₄, hfire⟩ := virtual.run_fire fuel hpop hfired hb₃
  refine ⟨{ p with
      stamper, published := p.published + 1
      delayTimer := none, publishTimer := none, phase := .terminated },
    q₃, b₄, rfl, hsucc, bare, hb₄, ?_⟩
  rw [hsleep, hfire]
  rfl

/-! ## The whole run -/

/-- The boundaries after `T`, the `i`-th first and `m` of them. -/
def boundaries (T : Instant) (pace : Duration) (i m : Nat) : List Instant :=
  (List.range' i m).map fun j => T + j * pace

theorem le_of_mem_boundaries {pace i m : Nat} {t : Instant} (ht : t ∈ boundaries T pace i m) :
    T + i * pace ≤ t := by
  obtain ⟨j, hj, rfl⟩ := List.mem_map.mp ht
  have hij : i ≤ j := (List.mem_range'_1.mp hj).1
  exact Nat.add_le_add_left (Nat.mul_le_mul_right _ hij) T

theorem length_boundaries (T : Instant) (pace : Duration) (i m : Nat) :
    (boundaries T pace i m).length = m := by
  simp [boundaries]

theorem le_last_of_mem_boundaries {pace m : Nat} {t : Instant} (ht : t ∈ boundaries T pace 1 m) :
    t ≤ T + m * pace := by
  obtain ⟨j, hj, rfl⟩ := List.mem_map.mp ht
  have hlt := (List.mem_range'_1.mp hj).2
  have hjm := Nat.le_of_lt_succ (Nat.lt_of_lt_of_eq hlt (Nat.add_comm 1 m))
  exact Nat.add_le_add_left (Nat.mul_le_mul_right _ hjm) T

theorem last_mem_boundaries (T : Instant) (pace : Duration) {m : Nat} (hm : 1 ≤ m) :
    T + m * pace ∈ boundaries T pace 1 m :=
  List.mem_map.mpr ⟨m, List.mem_range'_1.mpr ⟨hm, Nat.lt_add_of_pos_left Nat.one_pos⟩, rfl⟩

theorem precedes_of_le {t u : Instant} (htu : t ≤ u) (hu : precedesRequest external u = true) :
    precedesRequest external t = true := by
  cases external with
  | none => rfl
  | some s => exact precedesRequest_some.mpr (Nat.lt_of_le_of_lt htu (precedesRequest_some.mp hu))

/-- Everything is handed over if the last boundary comes before the request. -/
theorem length_of_precedes {pace m : Nat}
    (h : precedesRequest external (T + m * pace) = true) :
    ((boundaries T pace 1 m).filter (precedesRequest external)).length = m := by
  have hall : (boundaries T pace 1 m).filter (precedesRequest external) = boundaries T pace 1 m :=
    List.filter_eq_self.mpr fun t ht => precedes_of_le (le_last_of_mem_boundaries ht) h
  rw [hall, length_boundaries]

theorem length_lt_of_late {pace m : Nat} (hm : 1 ≤ m)
    (h : precedesRequest external (T + m * pace) = false) :
    ((boundaries T pace 1 m).filter (precedesRequest external)).length < m := by
  have hlt := List.length_filter_lt_length_iff_exists.mpr
    ⟨_, last_mem_boundaries T pace hm, ne_true_of_eq_false h⟩
  rwa [length_boundaries] at hlt

/-- The instant at which a run ends that would go on to `last`. -/
def cutOff (external : Option Instant) (last : Instant) : Instant :=
  external.elim last (min last)

/-- How a run ends that had handed over `k` images and was to hand over one at each of `ticks`. -/
structure Ended (external : Option Instant) (ticks : List Instant) (last : Instant) (k : Nat)
    (v v' : Moment) (p' : Publisher) (q' : TimerQueue) : Prop where
  sent : v'.sent = v.sent ++ ticks.filter (precedesRequest external)
  clock : v'.clock = cutOff external last
  published : p'.published.toNat = k + (ticks.filter (precedesRequest external)).length
  ending : (precedesRequest external last = true ∧ p'.phase = .terminated ∧ Bare q') ∨
    (precedesRequest external last = false ∧ p'.phase = .publishing)

theorem cutOff_of_precedes {last : Instant} (h : precedesRequest external last = true) :
    cutOff external last = last := by
  cases external with
  | none => rfl
  | some s => exact Nat.min_eq_left (Nat.le_of_lt (precedesRequest_some.mp h))

theorem cutOff_of_le {s last : Instant} (h : s ≤ last) : cutOff (some s) last = s :=
  Nat.min_eq_right h

theorem filter_eq_nil_of_le {s : Instant} {ticks : List Instant} (h : ∀ t ∈ ticks, s ≤ t) :
    ticks.filter (precedesRequest (some s)) = [] := by
  refine List.filter_eq_nil_iff.mpr ?_
  intro t ht
  exact ne_true_of_eq_false (not_precedesRequest_some.mpr (h t ht))

theorem exists_request {t : Instant} (h : precedesRequest external t = false) :
    ∃ s, external = some s ∧ s ≤ t := by
  cases external with
  | none => cases h
  | some s => exact ⟨s, rfl, not_precedesRequest_some.mp h⟩

/-- Shutdown is requested before the next boundary: nothing more is handed over. -/
theorem Pacing.run_interrupted (virtual : VirtualClock w exact external shows)
    (pacing : Pacing shows T k p q b v) (hclock : precedesRequest external v.clock = true)
    (hlate : precedesRequest external (T + (k + 1) * pace p.settings) = false)
    (hapart : external ≠ some (T + (k + 1) * pace p.settings))
    (hexact : exact (T + (k + 1) * pace p.settings)) (fuel m : Nat) :
    ∃ q' b' v',
      Dispatch.run w (onTimer w) (fuel + 1) .waiting p q b = ((some .shutdown, p, q'), b') ∧
      shows b' v' ∧ Ended external (boundaries T (pace p.settings) (k + 1) (m + 1))
        (T + (k + 1 + m) * pace p.settings) k v v' p q' := by
  obtain ⟨s, rfl, hle⟩ := exists_request hlate
  have hne : s ≠ T + (k + 1) * pace p.settings := fun h => hapart (congrArg some h)
  have hlt : s < T + (k + 1) * pace p.settings := Nat.lt_of_le_of_ne hle hne
  have hlast : s ≤ T + (k + 1 + m) * pace p.settings :=
    Nat.le_trans hle (Nat.add_le_add_left (Nat.mul_le_mul_right _ (Nat.le_add_right _ m)) T)
  have hnone : (boundaries T (pace p.settings) (k + 1) (m + 1)).filter
      (precedesRequest (some s)) = [] :=
    filter_eq_nil_of_le fun t ht => Nat.le_trans hle (le_of_mem_boundaries ht)
  obtain ⟨q', b', hb', hrun⟩ := pacing.run_cut virtual rfl
    (precedesRequest_some.mp hclock) hlt hexact fuel
  refine ⟨q', b', _, hrun, hb', ?_⟩
  exact
    { sent := by rw [hnone, List.append_nil]
      clock := (cutOff_of_le hlast).symm
      published := by rw [hnone, pacing.published]; rfl
      ending := Or.inr ⟨not_precedesRequest_some.mpr hlast, pacing.phase⟩ }

/-- The induction is on the images that are left after the next one. -/
theorem Pacing.run_all (virtual : VirtualClock w exact external shows) {settings : Settings}
    (hexact : ∀ j ≤ settings.maxCount.toNat, exact (T + j * pace settings))
    (hapart : ∀ j ≤ settings.maxCount.toNat, external ≠ some (T + j * pace settings))
    (fuel m : Nat) :
    ∀ {k : Nat} {p : Publisher} {q : TimerQueue} {b : β} {v : Moment},
      Pacing shows T k p q b v → p.settings = settings →
      k + 1 + m = settings.maxCount.toNat → precedesRequest external v.clock = true →
      ∃ p' q' b' v',
        Dispatch.run w (onTimer w) (fuel + 3 * (m + 1)) .waiting p q b =
          ((some .shutdown, p', q'), b') ∧
        shows b' v' ∧ Ended external (boundaries T (pace settings) (k + 1) (m + 1))
          (T + (k + 1 + m) * pace settings) k v v' p' q' := by
  induction m with
  | zero =>
    intro k p q b v pacing hsettings hk hclock
    subst hsettings
    cases hbefore : precedesRequest external (T + (k + 1) * pace p.settings) with
    | false =>
      obtain ⟨q', b', v', hrun, hended⟩ := pacing.run_interrupted virtual hclock hbefore
        (hapart (k + 1) (by omega)) (hexact (k + 1) (by omega)) (fuel + 2) 0
      exact ⟨p, q', b', v', hrun, hended⟩
    | true =>
      obtain ⟨p', q', b', hphase, hpublished, bare, hb', hrun⟩ :=
        pacing.run_last virtual hk hbefore (hexact (k + 1) (by omega)) (fuel + 1)
      refine ⟨p', q', b', _, hrun, hb', ?_⟩
      exact
        { sent := by simp [boundaries, hbefore]
          clock := (cutOff_of_precedes hbefore).symm
          published := by rw [hpublished]; simp [boundaries, hbefore]
          ending := Or.inl ⟨hbefore, hphase, bare⟩ }
  | succ m ih =>
    intro k p q b v pacing hsettings hk hclock
    subst hsettings
    cases hbefore : precedesRequest external (T + (k + 1) * pace p.settings) with
    | false =>
      obtain ⟨q', b', v', hrun, hended⟩ := pacing.run_interrupted virtual hclock hbefore
        (hapart (k + 1) (by omega)) (hexact (k + 1) (by omega)) (fuel + 3 * (m + 1) + 2) (m + 1)
      exact ⟨p, q', b', v', hrun, hended⟩
    | true =>
      obtain ⟨stamper, q₁, b₁, pacing₁, hrun₁⟩ := pacing.run_next virtual (by omega) hbefore
        (hexact (k + 1) (by omega)) (fuel + 3 * (m + 1))
      obtain ⟨p', q', b', v', hrun, hb', ended⟩ := ih pacing₁ rfl (by omega) hbefore
      have hlast : T + (k + 1 + 1 + m) * pace p.settings =
          T + (k + 1 + (m + 1)) * pace p.settings := by
        rw [Nat.add_assoc (k + 1) 1 m, Nat.add_comm 1 m]
      have hticks : (boundaries T (pace p.settings) (k + 1) (m + 1 + 1)).filter
          (precedesRequest external) = (T + (k + 1) * pace p.settings) ::
            (boundaries T (pace p.settings) (k + 1 + 1) (m + 1)).filter
              (precedesRequest external) := by
        simp only [boundaries, List.range'_succ, List.map_cons]
        rw [List.filter_cons_of_pos hbefore]
      refine ⟨p', q', b', v', hrun₁.trans hrun, hb', ?_⟩
      exact
        { sent := by rw [ended.sent, hticks, List.append_assoc]; rfl
          clock := by rw [ended.clock]; exact congrArg (cutOff external) hlast
          published := by rw [ended.published, hticks, List.length_cons]; omega
          ending := hlast ▸ ended.ending }

/-- From the start of the delay on: its end comes before a request for shutdown, or it does not. -/
theorem run_delaying (virtual : VirtualClock w exact external shows) (hb : shows b v)
    (hrunning : v.stopped = false) (hphase : p.phase = .delaying) {h : Handle}
    (hdelay : p.delayTimer = some h) (hpublished : p.published = 0)
    (sole : Sole q h ⟨.once, v.clock + p.settings.startDelay⟩)
    (hrequest : precedesRequest external v.clock = true)
    (hexact : exact (v.clock + p.settings.startDelay))
    (hapart : external ≠ some (v.clock + p.settings.startDelay)) (fuel : Nat) :
    (∃ s q' b', external = some s ∧ s < v.clock + p.settings.startDelay ∧
      shows b' { v with clock := s, stopped := true } ∧
      Dispatch.run w (onTimer w) (fuel + 3) .waiting p q b = ((some .shutdown, p, q'), b')) ∨
    ∃ p' q' b', precedesRequest external (v.clock + p.settings.startDelay) = true ∧
      p'.settings = p.settings ∧
      Pacing shows (v.clock + p.settings.startDelay) 0 p' q' b'
        { v with clock := v.clock + p.settings.startDelay } ∧
      Dispatch.run w (onTimer w) (fuel + 3) .waiting p q b =
        Dispatch.run w (onTimer w) fuel .waiting p' q' b' := by
  cases hbefore : precedesRequest external (v.clock + p.settings.startDelay) with
  | false =>
    obtain ⟨s, rfl, hle⟩ := exists_request hbefore
    have hlt : s < v.clock + p.settings.startDelay :=
      Nat.lt_of_le_of_ne hle fun he => hapart (congrArg some he)
    obtain ⟨b', hb', hrun⟩ := virtual.run_cut (onTimer w) p (fuel + 2) hb hrunning
      sole.nextDeadline rfl (precedesRequest_some.mp hrequest) hlt hexact
    exact Or.inl ⟨s, q.settle, b', rfl, hlt, hb', hrun⟩
  | true =>
    obtain ⟨b₁, hb₁, hsleep⟩ := virtual.run_sleep (onTimer w) p (fuel + 2) hb hrunning
      sole.nextDeadline (Nat.le_add_right _ _) hexact hbefore
    obtain ⟨q₂, hpop, bare⟩ := sole.settle.popDue_once (Nat.le_refl _)
    obtain ⟨q₃, b₂, helapsed, hb₂, sole₃⟩ := shows_delayElapsed virtual hb₁ hphase bare
    rw [← onTimer_delaying w p q₂ hphase hdelay] at helapsed
    obtain ⟨b₃, hb₃, hfire⟩ := virtual.run_fire (fuel + 1) hpop helapsed hb₂
    have hearly := sole₃.popDue_early (Nat.lt_add_of_pos_right (pace_pos p.settings))
    refine Or.inr ⟨{ p with
        delayTimer := none, publishTimer := some q₂.nextHandle, phase := .publishing },
      q₃.settle, b₃, rfl, rfl, ?_, ?_⟩
    · exact
        { phase := rfl
          noDelay := rfl
          published := by simp only [hpublished]; rfl
          timer := ⟨q₂.nextHandle, rfl, by
            rw [Nat.zero_add, Nat.one_mul]
            exact sole₃.settle⟩
          shown := hb₃
          clock := by rw [Nat.zero_mul]; rfl
          running := hrunning }
    · rw [hsleep, hfire]
      simp only [hrunning, Bool.false_eq_true, if_false]
      rw [Dispatch.run_batch, hearly]

/-- A publisher started at `t₀` hands over its images one pace apart, the first one pace after the
start delay, up to a request for shutdown from outside; the loop ends with the last one or at the
request, and tells that shutdown was requested. -/
theorem spin_keeps_schedule (virtual : VirtualClock w exact external shows) {name topic : String}
    {settings : Settings} {depth : Nat} {book : SubjectBook} {t₀ : Instant} {q₁ : TimerQueue}
    {b₁ : β} (reachable : q.Reachable) (hidle : q.isEmpty = true)
    (hb : shows b ⟨t₀, false, []⟩)
    (hstart : (start w name topic settings depth book q).run b = (.ok (p, q₁), b₁))
    (hrequest : precedesRequest external t₀ = true)
    (hexact : ∀ k ≤ settings.maxCount.toNat,
      exact (t₀ + settings.startDelay + k * pace settings))
    (hapart : ∀ k ≤ settings.maxCount.toNat,
      external ≠ some (t₀ + settings.startDelay + k * pace settings))
    {fuel : Nat} (hfuel : 3 * (settings.maxCount.toNat + 1) ≤ fuel) :
    ∃ p' q' b' v',
      Dispatch.spin w (onTimer w) fuel p q₁ b₁ = ((some .shutdown, p', q'), b') ∧ shows b' v' ∧
      v'.sent = (boundaries (t₀ + settings.startDelay) (pace settings) 1
        settings.maxCount.toNat).filter (precedesRequest external) ∧
      v'.clock = cutOff external
        (t₀ + settings.startDelay + settings.maxCount.toNat * pace settings) ∧
      p'.published.toNat = v'.sent.length ∧
      ((v'.sent.length = settings.maxCount.toNat ∧ p'.phase = .terminated ∧ q'.isEmpty = true) ∨
        (v'.sent = [] ∧ p'.phase = .delaying) ∨
        (v'.sent.length < settings.maxCount.toNat ∧ p'.phase = .publishing)) := by
  obtain ⟨hvalid, ⟨outlet, payload, rfl⟩, rfl, hb₁⟩ := shows_start virtual hb hstart
  have hcount := (Settings.validate_eq_ok_iff.mp hvalid).1
  have sole := (reachable.coherent.bare hidle).arm .once (t₀ + settings.startDelay)
  obtain ⟨n, hn⟩ : ∃ n, settings.maxCount.toNat = n + 1 := ⟨_, (Nat.sub_add_cancel hcount).symm⟩
  obtain ⟨spare, rfl⟩ := Nat.exists_eq_add_of_le' hfuel
  have hspare : spare + 3 * (settings.maxCount.toNat + 1) = spare + 3 * (n + 1) + 3 := by omega
  have hexact₀ := hexact 0 (Nat.zero_le _)
  have hapart₀ := hapart 0 (Nat.zero_le _)
  rw [Nat.zero_mul, Nat.add_zero] at hexact₀ hapart₀
  rw [Dispatch.spin, hspare]
  rcases run_delaying (p := launched name settings outlet payload q.nextHandle) virtual hb₁
    rfl rfl rfl rfl sole hrequest hexact₀ hapart₀ (spare + 3 * (n + 1)) with ⟨s, q', b', rfl, hs, hb', hrun⟩ |
      ⟨p₂, q₂, b₂, hbefore, hsettings, pacing, hrun⟩
  · have hnone : (boundaries (t₀ + settings.startDelay) (pace settings) 1
        settings.maxCount.toNat).filter (precedesRequest (some s)) = [] := by
      refine filter_eq_nil_of_le fun t ht => ?_
      exact Nat.le_trans (Nat.le_of_lt hs)
        (Nat.le_trans (Nat.le_add_right _ _) (le_of_mem_boundaries ht))
    refine ⟨_, q', b', _, hrun, hb', hnone.symm, ?_, rfl, Or.inr (Or.inl ⟨rfl, rfl⟩)⟩
    exact (cutOff_of_le (Nat.le_trans (Nat.le_of_lt hs) (Nat.le_add_right _ _))).symm
  · obtain ⟨p', q', b', v', hrun', hb', ended⟩ := pacing.run_all virtual hexact hapart spare n
      hsettings (by rw [hn, Nat.zero_add, Nat.add_comm]) hbefore
    have hlast : t₀ + settings.startDelay + (0 + 1 + n) * pace settings =
        t₀ + settings.startDelay + settings.maxCount.toNat * pace settings := by
      rw [hn, Nat.zero_add, Nat.add_comm 1 n]
    have hticks : boundaries (t₀ + settings.startDelay) (pace settings) (0 + 1) (n + 1) =
        boundaries (t₀ + settings.startDelay) (pace settings) 1 settings.maxCount.toNat := by
      rw [hn]
    have hsent := ended.sent
    have hpublished := ended.published
    have hending := ended.ending
    rw [List.nil_append, hticks] at hsent
    rw [hticks, ← hsent, Nat.zero_add] at hpublished
    rw [hlast] at hending
    refine ⟨p', q', b', v', hrun.trans hrun', hb', hsent, hlast ▸ ended.clock, hpublished, ?_⟩
    rcases hending with ⟨hlastBefore, hphase, bare⟩ | ⟨hlate, hphase⟩
    · exact Or.inl ⟨hsent ▸ length_of_precedes hlastBefore, hphase, bare.isEmpty⟩
    · exact Or.inr (Or.inr ⟨hsent ▸ length_lt_of_late hcount hlate, hphase⟩)

/-- Three images were to be handed over; the transport refuses the second, and the request comes
before the third. -/
theorem spin_keeps_schedule_interrupted :
    let scene : Scene :=
      { Scene.fresh with script := some ⟨none, [.accepted 0, .refused "gone"]⟩ }
    let bench : Bench Scene :=
      { Bench.fresh scene with plan := Bench.requestOnly (some (Time.millis 27)) }
    let settings : Settings := ⟨Time.millis 10, 3, 0, Time.millis 5, "", some 1⟩
    let w := Scene.world.timed (·.clock)
    ∃ p q₁ b₁ p' q' b',
      (start w "camera" "image" settings 16 .plain .empty).run ⟨bench, []⟩ =
        (.ok (p, q₁), b₁) ∧
      Dispatch.spin w (onTimer w) 12 p q₁ b₁ = ((some .shutdown, p', q'), b') ∧
      b'.sent = [Time.millis 15, Time.millis 25] ∧ b'.state.clock = Time.millis 27 ∧
      p'.phase = .publishing := by
  intro scene bench settings w
  have hsubject : (SubjectBook.plain.subject "image").1 = .ok "image" := rfl
  have hvalid : settings.validate = .ok () := rfl
  have hadvertise : (w.advertise "image" 16 ⟨bench, []⟩).1 = .ok () := rfl
  have hpayload (drawn : Keystream.Key) :
      Payload.generate 0 settings.seed drawn true = .ok ⟨#[]⟩ := rfl
  have prompt : scene.IsPrompt := by
    rintro script ⟨⟩ took htook
    simpa using htook
  have virtual : VirtualClock w Time.IsWhole (some (Time.millis 27))
      (Bench.Shows Scene.IsPrompt (some (Time.millis 27))) :=
    Bench.virtualClock Scene.timeless (by rintro s ⟨⟩; exact ⟨27, rfl⟩)
  have shows₀ : Bench.Shows Scene.IsPrompt (some (Time.millis 27)) ⟨bench, []⟩ ⟨0, false, []⟩ :=
    { clock := rfl
      whole := ⟨0, rfl⟩
      stopped := rfl
      sent := rfl
      calm := prompt
      waiting := fun _ => ⟨rfl, rfl, rfl⟩ }
  have hmillis (k : Nat) :
      0 + settings.startDelay + k * pace settings = Time.millis (5 + k * 10) := by
    show 0 + 5 * 1000000 + k * 10000000 = (5 + k * 10) * 1000000
    omega
  have hapart (k : Nat) : some (Time.millis 27) ≠
      some (0 + settings.startDelay + k * pace settings) := by
    rw [hmillis, ne_eq, Option.some_inj, Time.millis_inj]
    omega
  obtain ⟨p, q₁, b₁, hstart⟩ := exists_start w .empty ⟨bench, []⟩ "camera" hvalid hsubject
    hadvertise rfl hpayload
  have hfuel : 3 * (settings.maxCount.toNat + 1) ≤ 12 := by decide
  obtain ⟨p', q', b', v', hspin, shows', hsent, hclock, hpublished, hending⟩ :=
    spin_keeps_schedule virtual ⟨[], rfl⟩ rfl shows₀ hstart rfl (fun k _ => ⟨_, hmillis k⟩)
      (fun k _ => hapart k) hfuel
  have hticks : v'.sent = [Time.millis 15, Time.millis 25] := hsent.trans (by decide)
  have hend : v'.clock = Time.millis 27 := hclock.trans (by decide)
  refine ⟨p, q₁, b₁, p', q', b', hstart, hspin, shows'.sent.trans hticks,
    shows'.clock.trans hend, ?_⟩
  rw [hticks] at hending
  rcases hending with ⟨hall, _⟩ | ⟨hnone, _⟩ | ⟨_, hphase⟩
  · exact absurd hall (by decide)
  · cases hnone
  · exact hphase

end PacedImages.Publisher
