import PacedImages.Time.Boundary

/-!
# Boundaries and the present

The next boundary of a repeating timer lies whole periods after its deadline, unless the way to it
does not fit into 64 bits. As long as no more time than fits has passed since an instant before the
deadline, the next boundary lies after the present.
-/

namespace PacedImages.Time

variable {deadline period now : Nat}

/-- A boundary that is late lies on the way to the first one after the present, as far as 64 bits
go. -/
theorem nextBoundary_late (hlate : deadline + period ≤ now) :
    nextBoundary deadline period now =
      deadline + min (period * ((now - deadline) / period + 1)) maxOffset :=
  if_neg (Nat.not_lt_of_le hlate)

theorem nextBoundary_early (hearly : now < deadline + period) :
    nextBoundary deadline period now = deadline + period :=
  if_pos hearly

theorem nextBoundary_cases (deadline period now : Nat) :
    (∃ n, 1 ≤ n ∧ nextBoundary deadline period now = deadline + n * period) ∨
      nextBoundary deadline period now = deadline + maxOffset := by
  by_cases hearly : now < deadline + period
  · exact Or.inl ⟨1, Nat.le_refl 1, by rw [nextBoundary_early hearly, Nat.one_mul]⟩
  · rw [nextBoundary_late (Nat.le_of_not_lt hearly)]
    rcases Nat.le_total (period * ((now - deadline) / period + 1)) maxOffset with hle | hle
    · refine Or.inl ⟨(now - deadline) / period + 1, Nat.succ_pos _, ?_⟩
      rw [Nat.min_eq_left hle, Nat.mul_comm]
    · exact Or.inr (by rw [Nat.min_eq_right hle])

theorem le_nextBoundary (deadline period now : Nat) :
    deadline ≤ nextBoundary deadline period now := by
  rcases nextBoundary_cases deadline period now with ⟨n, _, hnext⟩ | hnext
  · exact hnext ▸ Nat.le_add_right _ _
  · exact hnext ▸ Nat.le_add_right _ _

theorem lt_nextBoundary (since : Nat) (hperiod : 0 < period) (hdeadline : since < deadline)
    (hnow : now < since + UInt64.size) : now < nextBoundary deadline period now := by
  by_cases hearly : now < deadline + period
  · rw [nextBoundary_early hearly]
    exact hearly
  · rw [nextBoundary_late (Nat.le_of_not_lt hearly)]
    have hway : now - deadline < period * ((now - deadline) / period + 1) :=
      Nat.lt_mul_div_succ (now - deadline) hperiod
    rcases Nat.le_total (period * ((now - deadline) / period + 1)) maxOffset with hle | hle
    · rw [Nat.min_eq_left hle]
      omega
    · rw [Nat.min_eq_right hle]
      have hmax : UInt64.size = 1 + maxOffset := rfl
      omega

/-- Where 64 bits reach some boundary after the present, the next boundary is the first of them. -/
theorem nextBoundary_first (hperiod : 0 < period)
    (hreach : deadline + period ≤ now →
      ∃ n, now < deadline + n * period ∧ n * period < UInt64.size) :
    ∃ k, 1 ≤ k ∧ nextBoundary deadline period now = deadline + k * period ∧
      now < deadline + k * period ∧ (deadline ≤ now → deadline + (k - 1) * period ≤ now) := by
  by_cases hearly : now < deadline + period
  · rw [nextBoundary_early hearly]
    refine ⟨1, Nat.le_refl 1, by rw [Nat.one_mul], by rwa [Nat.one_mul], ?_⟩
    intro hdue
    rwa [Nat.sub_self, Nat.zero_mul]
  · have hlate := Nat.le_of_not_lt hearly
    obtain ⟨n, hafter, hfits⟩ := hreach hlate
    have hskipped : (now - deadline) / period * period ≤ now - deadline :=
      Nat.div_mul_le_self (now - deadline) period
    have hnext : now - deadline < ((now - deadline) / period + 1) * period := by
      rw [Nat.mul_comm]
      exact Nat.lt_mul_div_succ (now - deadline) hperiod
    have hle : (now - deadline) / period + 1 ≤ n :=
      Nat.div_lt_of_lt_mul (Nat.mul_comm n period ▸ by omega)
    have hway : period * ((now - deadline) / period + 1) ≤ maxOffset := by
      have hmul := Nat.mul_le_mul_right period hle
      have hmax : UInt64.size = maxOffset + 1 := rfl
      rw [Nat.mul_comm]
      omega
    refine ⟨(now - deadline) / period + 1, Nat.succ_pos _, ?_, ?_, ?_⟩
    · rw [nextBoundary_late hlate, Nat.min_eq_left hway, Nat.mul_comm]
    · omega
    · intro hdue
      rw [Nat.add_sub_cancel]
      omega

/-- For half as long as 64 bits count from the origin they reach the first boundary after the
present. -/
theorem exists_boundary (hperiod : 0 < period) (hskips : deadline + period ≤ now)
    (hrange : 2 * now < UInt64.size) :
    ∃ n, now < deadline + n * period ∧ n * period < UInt64.size := by
  have hafter := Nat.lt_div_mul_add (a := now - deadline) hperiod
  have hskipped := Nat.div_mul_le_self (now - deadline) period
  refine ⟨(now - deadline) / period + 1, ?_, ?_⟩
  · rw [Nat.succ_mul]
    omega
  · rw [Nat.succ_mul]
    omega

end PacedImages.Time
