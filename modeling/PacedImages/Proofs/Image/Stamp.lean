import PacedImages.Image.Stamp

/-!
# Stamps in order

Moments that are no leap seconds are numbered by their nanoseconds from 1970, and the stamps that a
stamper gives have growing numbers.
-/

namespace PacedImages

namespace Stamp

variable {a b : Stamp}

theorem isRepresentable_iff {seconds : Int} {nanos : Nat} :
    isRepresentable seconds nanos = true ↔
      (firstSecond ≤ seconds ∧ seconds ≤ lastSecond) ∧
        (nanos < nanosPerSecond ∨ nanos < 2 * nanosPerSecond ∧ seconds % 60 = 59) := by
  simp only [isRepresentable, Bool.and_eq_true, Bool.or_eq_true, decide_eq_true_eq, beq_iff_eq]

/-- The calendar has the moment. -/
def InCalendar (s : Stamp) : Prop := isRepresentable s.seconds s.nanos = true

instance : Decidable a.InCalendar :=
  inferInstanceAs (Decidable (isRepresentable a.seconds a.nanos = true))

theorem InCalendar.nanos_lt (h : a.InCalendar) : a.nanos < UInt32.size := by
  have hnanos := (isRepresentable_iff.mp h).2
  unfold nanosPerSecond at hnanos
  unfold UInt32.size
  omega

theorem InCalendar.seconds_range (h : a.InCalendar) :
    -0x8000000000000000 ≤ a.seconds ∧ a.seconds ≤ 0x7FFFFFFFFFFFFFFF := by
  have hseconds := (isRepresentable_iff.mp h).1
  unfold firstSecond lastSecond at hseconds
  omega

/-- The moment is no leap second. -/
def IsPlain (s : Stamp) : Prop := s.nanos < nanosPerSecond

instance : Decidable a.IsPlain := inferInstanceAs (Decidable (a.nanos < nanosPerSecond))

/-- The nanoseconds from 1970. -/
def total (s : Stamp) : Int := s.seconds * nanosPerSecond + s.nanos

theorem isBefore_iff (ha : a.IsPlain) (hb : b.IsPlain) :
    a.isBefore b = true ↔ a.total < b.total := by
  simp only [isBefore, Bool.or_eq_true, Bool.and_eq_true, decide_eq_true_eq, beq_iff_eq]
  unfold IsPlain nanosPerSecond at ha hb
  unfold total nanosPerSecond
  omega

theorem isBefore_trans {c : Stamp} (ha : a.IsPlain) (hb : b.IsPlain) (hc : c.IsPlain)
    (hab : a.isBefore b = true) (hbc : b.isBefore c = true) : a.isBefore c = true := by
  rw [isBefore_iff ha hb] at hab
  rw [isBefore_iff hb hc] at hbc
  rw [isBefore_iff ha hc]
  exact Int.lt_trans hab hbc

theorem IsPlain.next (h : a.IsPlain) : a.next.IsPlain := by
  unfold IsPlain Stamp.next nanosPerSecond at *
  split
  · exact Nat.zero_lt_succ _
  · show a.nanos + 1 < 1000000000
    omega

theorem total_next (h : a.IsPlain) : a.next.total = a.total + 1 := by
  unfold IsPlain nanosPerSecond at h
  unfold total Stamp.next nanosPerSecond
  split
  · show (a.seconds + 1) * 1000000000 + ((0 : Nat) : Int) = a.seconds * 1000000000 + a.nanos + 1
    omega
  · show a.seconds * 1000000000 + ((a.nanos + 1 : Nat) : Int) = a.seconds * 1000000000 + a.nanos + 1
    omega

end Stamp

namespace Stamper

variable {s : Stamper} {reading : Stamp}

/-- Whatever was given last is no leap second. -/
def IsPlain (s : Stamper) : Prop := ∀ last ∈ s.last, last.IsPlain

theorem stamp_last (s : Stamper) (reading : Stamp) :
    (s.stamp reading).2.last = some (s.stamp reading).1 :=
  rfl

theorem stamp_isPlain (hs : s.IsPlain) (hreading : reading.IsPlain) :
    (s.stamp reading).1.IsPlain := by
  cases hlast : s.last with
  | none =>
    simp only [stamp, hlast]
    exact hreading
  | some last =>
    simp only [stamp, hlast]
    by_cases hlater : last.isBefore reading = true
    · rwa [if_pos hlater]
    · rw [if_neg hlater]
      exact (hs last hlast).next

/-- A stamp comes after the one given before. -/
theorem stamp_after (hs : s.IsPlain) (reading : Stamp) {last : Stamp} (hlast : s.last = some last) :
    last.isBefore (s.stamp reading).1 = true := by
  have hplain := hs last hlast
  simp only [stamp, hlast]
  by_cases hlater : last.isBefore reading = true
  · rwa [if_pos hlater]
  · rw [if_neg hlater, Stamp.isBefore_iff hplain hplain.next, Stamp.total_next hplain]
    exact Int.lt_succ _

/-- The stamper after readings, one after the other. -/
def afterAll (s : Stamper) (readings : List Stamp) : Stamper :=
  readings.foldl (fun s reading => (s.stamp reading).2) s

theorem stamps_append (s : Stamper) (readings later : List Stamp) :
    s.stamps (readings ++ later) = s.stamps readings ++ (s.afterAll readings).stamps later := by
  induction readings generalizing s with
  | nil => rfl
  | cons reading rest ih => exact congrArg _ (ih (s.stamp reading).2)

theorem afterAll_append (s : Stamper) (readings later : List Stamp) :
    s.afterAll (readings ++ later) = (s.afterAll readings).afterAll later :=
  List.foldl_append

theorem length_stamps (s : Stamper) (readings : List Stamp) :
    (s.stamps readings).length = readings.length := by
  induction readings generalizing s with
  | nil => rfl
  | cons reading rest ih => exact congrArg (· + 1) (ih (s.stamp reading).2)

/-- The last stamp given is remembered. -/
theorem last_afterAll (s : Stamper) (readings : List Stamp) :
    (s.afterAll readings).last = (s.last.toList ++ s.stamps readings).getLast? := by
  induction readings generalizing s with
  | nil =>
    show s.last = (s.last.toList ++ []).getLast?
    cases s.last <;> rfl
  | cons reading rest ih =>
    show ((s.stamp reading).2.afterAll rest).last =
      (s.last.toList ++ (s.stamp reading).1 :: (s.stamp reading).2.stamps rest).getLast?
    have hlast :
        (s.last.toList ++ (s.stamp reading).1 :: (s.stamp reading).2.stamps rest).getLast? =
          ((s.stamp reading).1 :: (s.stamp reading).2.stamps rest).getLast? := by
      rw [List.getLast?_append, Option.or_of_isSome (by simp)]
    rw [ih, stamp_last, hlast]
    rfl

/-- The stamps for any readings come one after the other. -/
theorem stamps_ordered (hs : s.IsPlain) {readings : List Stamp}
    (hreadings : ∀ reading ∈ readings, reading.IsPlain) :
    (s.last.toList ++ s.stamps readings).Pairwise (fun a b => a.isBefore b = true) ∧
      ∀ t ∈ s.stamps readings, t.IsPlain := by
  induction readings generalizing s with
  | nil =>
    refine ⟨?_, fun t ht => by cases ht⟩
    show (s.last.toList ++ []).Pairwise _
    cases s.last <;> simp
  | cons reading rest ih =>
    have hplain := stamp_isPlain hs (hreadings reading List.mem_cons_self)
    have hgiven : (s.stamp reading).2.IsPlain := by
      rintro last ⟨⟩
      exact hplain
    obtain ⟨hordered, hrest⟩ := ih hgiven fun r hr => hreadings r (List.mem_cons_of_mem _ hr)
    have hall : ∀ t ∈ s.stamps (reading :: rest), t.IsPlain := by
      intro t ht
      rcases List.mem_cons.mp ht with rfl | ht
      · exact hplain
      · exact hrest t ht
    refine ⟨?_, hall⟩
    rw [stamp_last] at hordered
    cases hlast : s.last with
    | none => exact hordered
    | some last =>
      have hnext := stamp_after hs reading hlast
      refine List.pairwise_cons.mpr ⟨?_, hordered⟩
      intro t ht
      rcases List.mem_cons.mp ht with rfl | ht
      · exact hnext
      · have hlater := (List.pairwise_cons.mp hordered).1 t ht
        exact Stamp.isBefore_trans (hs last hlast) hplain (hrest t ht) hnext hlater

end Stamper

end PacedImages
