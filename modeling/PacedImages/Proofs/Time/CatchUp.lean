import Mathlib.Order.Bounds.Defs
import PacedImages.Proofs.Time.Boundary

/-!
# Catching up with the present

The next boundary of a repeating timer is where one gets who adds the period to the deadline, at
least once, until the present is passed; only where 64 bits do not reach that far the timer goes on
at the end of what they reach. It is computed in words of 128 bits, and for times that span as many
seconds as 64 bits count no step of that fails.
-/

namespace PacedImages.Time

/-- Adds the period to a deadline until the present is passed. Without a period it stays where it
is. -/
def catchUp (period now deadline : Nat) : Nat :=
  if 0 < period ∧ deadline + period ≤ now then catchUp period now (deadline + period)
  else deadline + period
termination_by now - deadline

/-- How many nanoseconds instants and durations span: as many seconds as 64 bits count. -/
def span : Nat := UInt64.size * (1000 * nanosPerMilli)

/-- The next boundary in words of 128 bits. There is none if the deadline were after the present,
the period nothing, or a sum or product too large for a word. -/
def nextBoundary? (deadline : Instant) (period : Duration) (now : Instant) : Option Instant :=
  if now < deadline + period then some (deadline + period)
  else if now < deadline then none
  else
    let behind := BitVec.ofNat 128 (now - deadline)
    let step := BitVec.ofNat 128 period
    if step = 0 then none
    else if BitVec.uaddOverflow (behind / step) 1 then none
    else
      let periods := behind / step + 1
      if BitVec.umulOverflow step periods then none
      else
        let offset := (step * periods).toNat
        some (deadline + if offset < UInt64.size then offset else maxOffset)

variable {deadline period now : Nat}

theorem millis_lt_span (ms : UInt64) : millis ms.toNat < span := by
  have hms := ms.toNat_lt_size
  show ms.toNat * 1000000 < UInt64.size * (1000 * 1000000)
  omega

/-! ## The first boundary after the present -/

theorem isLeast_boundary (hperiod : 0 < period) :
    IsLeast {k | 1 ≤ k ∧ now < deadline + k * period} ((now - deadline) / period + 1) := by
  refine ⟨⟨Nat.succ_pos _, ?_⟩, ?_⟩
  · have hpassed := Nat.lt_mul_div_succ (now - deadline) hperiod
    rw [Nat.mul_comm] at hpassed
    omega
  · rintro k ⟨hpos, hafter⟩
    have hway : 0 < k * period := Nat.mul_pos hpos hperiod
    refine Nat.div_lt_of_lt_mul ?_
    rw [Nat.mul_comm]
    omega

theorem catchUp_eq (hperiod : 0 < period) :
    catchUp period now deadline = deadline + ((now - deadline) / period + 1) * period := by
  fun_induction catchUp period now deadline with
  | case1 deadline hlate ih =>
    have hskipped : (now - deadline) / period = (now - (deadline + period)) / period + 1 := by
      rw [Nat.div_eq_sub_div hperiod (by omega), Nat.sub_sub]
    rw [ih, hskipped, Nat.succ_mul (_ + 1) period, Nat.add_assoc, Nat.add_comm period]
  | case2 deadline hstay =>
    have hfirst : (now - deadline) / period = 0 := Nat.div_eq_of_lt (by omega)
    rw [hfirst, Nat.zero_add, Nat.one_mul]

theorem min_maxOffset (n : Nat) :
    min n maxOffset = if n < UInt64.size then n else maxOffset := by
  have hmax : UInt64.size = maxOffset + 1 := rfl
  by_cases hfits : n < UInt64.size
  · rw [if_pos hfits, Nat.min_eq_left (by omega)]
  · rw [if_neg hfits, Nat.min_eq_right (by omega)]

theorem nextBoundary_eq (hperiod : 0 < period) :
    let k := (now - deadline) / period + 1
    nextBoundary deadline period now =
      if k = 1 ∨ k * period < UInt64.size then deadline + k * period
      else deadline + (UInt64.size - 1) := by
  intro k
  by_cases hearly : now < deadline + period
  · have hfirst : k = 1 := congrArg (· + 1) (Nat.div_eq_of_lt (by omega))
    rw [nextBoundary_early hearly, if_pos (Or.inl hfirst), hfirst, Nat.one_mul]
  · have hlate := Nat.le_of_not_lt hearly
    have hskipped : 1 ≤ (now - deadline) / period :=
      (Nat.one_le_div_iff hperiod).mpr (by omega)
    have hlater : ¬ k = 1 := fun hfirst => by omega
    rw [nextBoundary_late hlate, Nat.mul_comm, min_maxOffset]
    by_cases hfits : k * period < UInt64.size
    · rw [if_pos (Or.inr hfits), if_pos hfits]
    · rw [if_neg (not_or.mpr ⟨hlater, hfits⟩), if_neg hfits]
      rfl

/-! ## Words of 128 bits -/

theorem toNat_word {n : Nat} (h : n < 2 * span) : (BitVec.ofNat 128 n).toNat = n :=
  (BitVec.toNat_ofNat n 128).trans (Nat.mod_eq_of_lt (Nat.lt_trans h (by decide)))

theorem not_uaddOverflow {x y : BitVec 128} (h : x.toNat + y.toNat < 2 * span) :
    ¬ BitVec.uaddOverflow x y = true := by
  rw [BitVec.uaddOverflow, decide_eq_true_iff, Nat.not_le]
  exact Nat.lt_trans h (by decide)

theorem not_umulOverflow {x y : BitVec 128} (h : x.toNat * y.toNat < 2 * span) :
    ¬ BitVec.umulOverflow x y = true := by
  rw [BitVec.umulOverflow, decide_eq_true_iff, Nat.not_le]
  exact Nat.lt_trans h (by decide)

/-- The product is at most a period more than what is behind, and so there is room for it. -/
theorem offset_fits {behind step : BitVec 128} (hbehind : behind.toNat < span)
    (hstep : step.toNat < span) :
    ¬ BitVec.uaddOverflow (behind / step) 1 = true ∧
      ¬ BitVec.umulOverflow step (behind / step + 1) = true ∧
      (step * (behind / step + 1)).toNat = step.toNat * (behind.toNat / step.toNat + 1) := by
  have hle : behind.toNat / step.toNat ≤ behind.toNat := Nat.div_le_self _ _
  have hsum : ¬ BitVec.uaddOverflow (behind / step) 1 = true := by
    refine not_uaddOverflow ?_
    rw [BitVec.toNat_udiv]
    show behind.toNat / step.toNat + 1 < 2 * span
    omega
  have hperiods : (behind / step + 1).toNat = behind.toNat / step.toNat + 1 := by
    rw [BitVec.toNat_add_of_not_uaddOverflow hsum, BitVec.toNat_udiv]
    rfl
  have hproduct : ¬ BitVec.umulOverflow step (behind / step + 1) = true := by
    refine not_umulOverflow ?_
    have hskipped : step.toNat * (behind.toNat / step.toNat) ≤ behind.toNat :=
      Nat.mul_div_le _ _
    rw [hperiods, Nat.mul_succ]
    omega
  refine ⟨hsum, hproduct, ?_⟩
  rw [BitVec.toNat_mul_of_not_umulOverflow hproduct, hperiods]

/-- No step of the computation fails; above all the deadline is not after the present where the
first boundary has passed. -/
theorem nextBoundary?_eq (hperiod : 0 < period) (hnow : now < span) (hspan : period < span) :
    nextBoundary? deadline period now = some (nextBoundary deadline period now) := by
  unfold nextBoundary?
  by_cases hearly : now < deadline + period
  · rw [if_pos hearly, nextBoundary_early hearly]
  · have hlate := Nat.le_of_not_lt hearly
    have hdue : ¬ now < deadline := by omega
    have hbehind : (BitVec.ofNat 128 (now - deadline)).toNat = now - deadline :=
      toNat_word (by omega)
    have hstep : (BitVec.ofNat 128 period).toNat = period := toNat_word (by omega)
    have hsome : ¬ BitVec.ofNat 128 period = 0 := by
      intro hzero
      rw [hzero] at hstep
      exact Nat.ne_of_lt hperiod hstep
    have hreach : (BitVec.ofNat 128 (now - deadline)).toNat < span := by omega
    have hfits : (BitVec.ofNat 128 period).toNat < span := by omega
    obtain ⟨hsum, hproduct, hoffset⟩ := offset_fits hreach hfits
    rw [hbehind, hstep] at hoffset
    rw [if_neg hearly, if_neg hdue, nextBoundary_late hlate]
    simp only [if_neg hsome, if_neg hsum, if_neg hproduct, hoffset, min_maxOffset]

/-- The next boundary is the first one after the present that lies whole periods after the deadline,
at least one, as one finds it by adding the period again and again. If it is neither the first of
all nor within the reach of 64 bits, it is the end of that reach. For every period of milliseconds
that 64 bits count, and longer ones, no step in words of 128 bits fails. -/
theorem nextBoundary_catches_up (deadline now : Nat) (hperiod : minPeriod ≤ period) :
    ∃ k, IsLeast {k | 1 ≤ k ∧ now < deadline + k * period} k ∧
      catchUp period now deadline = deadline + k * period ∧
      nextBoundary deadline period now =
        (if k = 1 ∨ k * period < UInt64.size then catchUp period now deadline
          else deadline + (UInt64.size - 1)) ∧
      (now < span → period < span →
        nextBoundary? deadline period now = some (nextBoundary deadline period now)) ∧
      ∀ ms : UInt64, millis ms.toNat < span := by
  have hpos : 0 < period := Nat.lt_of_lt_of_le (by decide) hperiod
  refine ⟨(now - deadline) / period + 1, isLeast_boundary hpos, catchUp_eq hpos, ?_,
    nextBoundary?_eq hpos, millis_lt_span⟩
  rw [catchUp_eq hpos]
  exact nextBoundary_eq hpos

/-- Four periods after the deadline the next boundary is the fifth. It is out of reach if the period
is the longest that 64 bits count in milliseconds, and then lies before the present. -/
theorem nextBoundary_catches_up_out_of_reach :
    minPeriod ≤ millis 10 ∧ nextBoundary 7 (millis 10) (7 + millis 40) = 7 + millis 50 ∧
      catchUp (millis 10) (7 + millis 40) 7 = 7 + millis 50 ∧
      nextBoundary 7 (millis (UInt64.size - 1)) (7 + 4 * millis (UInt64.size - 1)) =
        7 + (UInt64.size - 1) ∧
      nextBoundary? 7 (millis (UInt64.size - 1)) (7 + 4 * millis (UInt64.size - 1)) =
        some (7 + (UInt64.size - 1)) := by
  have hshort : minPeriod ≤ millis 10 := by decide
  have hlong : minPeriod ≤ millis (UInt64.size - 1) := by decide
  obtain ⟨k, hleast, hcatch, hnext, -⟩ := nextBoundary_catches_up 7 (7 + millis 40) hshort
  obtain ⟨n, hleast', -, hnext', hwords, hspan⟩ :=
    nextBoundary_catches_up 7 (7 + 4 * millis (UInt64.size - 1)) hlong
  have hfifth : IsLeast {k | 1 ≤ k ∧ 7 + millis 40 < 7 + k * millis 10} 5 :=
    isLeast_boundary (by decide)
  have hfifth' : IsLeast {k | 1 ≤ k ∧ 7 + 4 * millis (UInt64.size - 1) <
      7 + k * millis (UInt64.size - 1)} 5 := isLeast_boundary (by decide)
  obtain rfl : k = 5 := Nat.le_antisymm (hleast.2 hfifth.1) (hfifth.2 hleast.1)
  obtain rfl : n = 5 := Nat.le_antisymm (hleast'.2 hfifth'.1) (hfifth'.2 hleast'.1)
  have hnext' := hnext'.trans (if_neg (by decide))
  refine ⟨hshort, hnext.trans ((if_pos (by decide)).trans hcatch), hcatch, hnext', ?_⟩
  rw [← hnext']
  exact hwords (by decide) (hspan (.ofNat (UInt64.size - 1)))

end PacedImages.Time
