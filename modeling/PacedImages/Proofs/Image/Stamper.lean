import Mathlib.Order.Bounds.Defs
import PacedImages.Proofs.Image.Stamp

/-!
# Stamps and the clock

Every reading claims a moment for each turn from its own on: its own moment at first, and a
nanosecond more at each later turn. A stamp is the latest moment that is claimed for its turn. So
stamps run ahead of a clock that was set back by a nanosecond each, until it has caught up with
them.
-/

namespace PacedImages

namespace Stamp

variable {a b : Stamp} {m n : Nat}

instance : LE Stamp := ⟨fun a b => b.isBefore a = false⟩

theorem le_iff (ha : a.IsPlain) (hb : b.IsPlain) : a ≤ b ↔ a.total ≤ b.total := by
  show b.isBefore a = false ↔ a.total ≤ b.total
  rw [← Bool.not_eq_true, isBefore_iff hb ha, Int.not_lt]

theorem IsPlain.ext (ha : a.IsPlain) (hb : b.IsPlain) (htotal : a.total = b.total) : a = b := by
  obtain ⟨s, n⟩ := a
  obtain ⟨s', n'⟩ := b
  simp only [IsPlain, total, nanosPerSecond] at ha hb htotal
  have hseconds : s = s' := by omega
  have hnanos : n = n' := by omega
  rw [hseconds, hnanos]

/-- So many nanoseconds later. -/
def later (s : Stamp) (n : Nat) : Stamp :=
  ⟨s.seconds + ((s.nanos + n) / nanosPerSecond : Nat), (s.nanos + n) % nanosPerSecond⟩

theorem later_isPlain (s : Stamp) (n : Nat) : (s.later n).IsPlain :=
  Nat.mod_lt _ (by decide)

theorem total_later (s : Stamp) (n : Nat) : (s.later n).total = s.total + n := by
  have hsplit := Nat.div_add_mod (s.nanos + n) nanosPerSecond
  simp only [total, later]
  unfold nanosPerSecond at *
  omega

theorem later_zero (ha : a.IsPlain) : a.later 0 = a := by
  apply (later_isPlain a 0).ext ha
  rw [total_later]
  omega

theorem later_later (s : Stamp) (m n : Nat) : (s.later m).later n = s.later (m + n) := by
  apply (later_isPlain _ n).ext (later_isPlain s (m + n))
  simp only [total_later]
  omega

theorem next_eq_later (ha : a.IsPlain) : a.next = a.later 1 := by
  apply ha.next.ext (later_isPlain a 1)
  rw [total_next ha, total_later]
  rfl

/-- The moments of the calendar that are no leap seconds have the totals of a range. -/
theorem inCalendar_iff (ha : a.IsPlain) :
    a.InCalendar ↔
      firstSecond * nanosPerSecond ≤ a.total ∧ a.total < (lastSecond + 1) * nanosPerSecond := by
  unfold InCalendar
  rw [isRepresentable_iff]
  unfold IsPlain at ha
  unfold total
  unfold firstSecond lastSecond nanosPerSecond at *
  omega

theorem InCalendar.later (ha : a.IsPlain) (hfirst : a.InCalendar)
    (hlast : (a.later n).InCalendar) (hle : m ≤ n) : (a.later m).InCalendar := by
  rw [inCalendar_iff ha] at hfirst
  rw [inCalendar_iff (later_isPlain a n), total_later] at hlast
  rw [inCalendar_iff (later_isPlain a m), total_later]
  omega

end Stamp

namespace Stamper

variable {s : Stamper} {readings : List Stamp} {i : Nat} {reading previous given t : Stamp}

/-- What is claimed for a turn: the readings so far, each later by a nanosecond for every turn
since. -/
def claims (readings : List Stamp) (i : Nat) : Set Stamp :=
  {t | ∃ j r, j ≤ i ∧ readings[j]? = some r ∧ t = r.later (i - j)}

theorem isPlain_of_mem_claims (ht : t ∈ claims readings i) : t.IsPlain := by
  obtain ⟨j, r, _, _, rfl⟩ := ht
  exact Stamp.later_isPlain r (i - j)

theorem own_mem_claims (hplain : reading.IsPlain) (hreading : readings[i]? = some reading) :
    reading ∈ claims readings i :=
  ⟨i, reading, Nat.le_refl i, hreading, by rw [Nat.sub_self, Stamp.later_zero hplain]⟩

/-- At the next turn there is one more claim, and the others have moved on. -/
theorem mem_claims_succ (hplain : reading.IsPlain) (hreading : readings[i + 1]? = some reading) :
    t ∈ claims readings (i + 1) ↔ t = reading ∨ ∃ t' ∈ claims readings i, t = t'.later 1 := by
  constructor
  · rintro ⟨j, r, hj, hr, rfl⟩
    rcases Nat.lt_or_eq_of_le hj with hlt | rfl
    · have hle := Nat.le_of_lt_succ hlt
      refine Or.inr ⟨_, ⟨j, r, hle, hr, rfl⟩, ?_⟩
      rw [Stamp.later_later, ← Nat.sub_add_comm hle]
    · obtain rfl := Option.some_inj.mp (hr.symm.trans hreading)
      left
      rw [Nat.sub_self, Stamp.later_zero hplain]
  · rintro (rfl | ⟨_, ⟨j, r, hj, hr, rfl⟩, rfl⟩)
    · exact own_mem_claims hplain hreading
    · refine ⟨j, r, Nat.le_succ_of_le hj, hr, ?_⟩
      rw [Stamp.later_later, ← Nat.sub_add_comm hj]

/-- Each stamp is made from its reading and the stamp before. -/
theorem stamps_succ (hprevious : (s.stamps readings)[i]? = some previous)
    (hreading : readings[i + 1]? = some reading) :
    (s.stamps readings)[i + 1]? = some ((⟨some previous⟩ : Stamper).stamp reading).1 := by
  induction i generalizing s readings with
  | zero =>
    match readings with
    | [] | [_] => cases hreading
    | first :: second :: rest =>
      obtain rfl := Option.some_inj.mp hprevious
      obtain rfl := Option.some_inj.mp hreading
      rfl
  | succ i ih =>
    match readings with
    | [] => cases hreading
    | first :: rest => exact ih (s := (s.stamp first).2) hprevious hreading

theorem stamps_isPlain (hplain : ∀ r ∈ readings, r.IsPlain)
    (hgiven : (fresh.stamps readings)[i]? = some given) : given.IsPlain :=
  (stamps_ordered (s := fresh) nofun hplain).2 given (List.mem_of_getElem? hgiven)

/-- Of the claims for the next turn, moved on or new, the stamp is again the latest. -/
theorem isGreatest_stamp (hprevious : previous.IsPlain) (hplain : reading.IsPlain)
    (hreading : readings[i + 1]? = some reading)
    (hlatest : IsGreatest (claims readings i) previous) :
    IsGreatest (claims readings (i + 1)) ((⟨some previous⟩ : Stamper).stamp reading).1 := by
  obtain ⟨hmem, hupper⟩ := hlatest
  have hearlier : ∀ t ∈ claims readings i, t.total ≤ previous.total := by
    intro t ht
    exact (Stamp.le_iff (isPlain_of_mem_claims ht) hprevious).mp (hupper ht)
  by_cases hlater : previous.isBefore reading = true
  · simp only [stamp, if_pos hlater]
    rw [Stamp.isBefore_iff hprevious hplain] at hlater
    constructor
    · exact own_mem_claims hplain hreading
    · intro t ht
      rw [Stamp.le_iff (isPlain_of_mem_claims ht) hplain]
      rcases (mem_claims_succ hplain hreading).mp ht with rfl | ⟨t', ht', rfl⟩
      · exact Int.le_refl _
      · have hle := hearlier t' ht'
        rw [Stamp.total_later]
        omega
  · simp only [stamp, if_neg hlater]
    rw [Stamp.isBefore_iff hprevious hplain] at hlater
    constructor
    · rw [mem_claims_succ hplain hreading]
      exact Or.inr ⟨previous, hmem, Stamp.next_eq_later hprevious⟩
    · intro t ht
      rw [Stamp.le_iff (isPlain_of_mem_claims ht) hprevious.next, Stamp.total_next hprevious]
      rcases (mem_claims_succ hplain hreading).mp ht with rfl | ⟨t', ht', rfl⟩
      · omega
      · have hle := hearlier t' ht'
        rw [Stamp.total_later]
        omega

/-- A stamp is the latest moment that is claimed for its turn. -/
theorem isGreatest_claims (hplain : ∀ r ∈ readings, r.IsPlain)
    (hgiven : (fresh.stamps readings)[i]? = some given) : IsGreatest (claims readings i) given := by
  induction i generalizing given with
  | zero =>
    match readings with
    | [] => cases hgiven
    | first :: rest =>
      obtain rfl := Option.some_inj.mp hgiven
      have hfirst := hplain first List.mem_cons_self
      constructor
      · exact own_mem_claims hfirst rfl
      · rintro t ⟨j, r, hj, hr, rfl⟩
        obtain rfl := Nat.le_zero.mp hj
        obtain rfl := Option.some_inj.mp hr
        rw [Nat.sub_self, Stamp.later_zero hfirst]
        exact (Stamp.le_iff hfirst hfirst).mpr (Int.le_refl _)
  | succ i ih =>
    have hlt := (List.getElem?_eq_some_iff.mp hgiven).1
    obtain ⟨previous, hprevious⟩ : ∃ p, (fresh.stamps readings)[i]? = some p :=
      ⟨_, List.getElem?_eq_getElem (Nat.lt_of_succ_lt hlt)⟩
    rw [length_stamps] at hlt
    have hreading : readings[i + 1]? = some readings[i + 1] := List.getElem?_eq_getElem hlt
    obtain rfl := Option.some_inj.mp (hgiven.symm.trans (stamps_succ hprevious hreading))
    exact isGreatest_stamp (stamps_isPlain hplain hprevious) (hplain _ (List.getElem_mem hlt))
      hreading (ih hprevious)

/-- With room in the calendar for a nanosecond more at each turn, no stamp leaves it. -/
theorem inCalendar_of_mem_claims (hplain : ∀ r ∈ readings, r.IsPlain)
    (hroom : ∀ r ∈ readings, r.InCalendar ∧ (r.later readings.length).InCalendar)
    (hi : i < readings.length) (ht : t ∈ claims readings i) : t.InCalendar := by
  obtain ⟨j, r, _, hr, rfl⟩ := ht
  have hmem := List.mem_of_getElem? hr
  exact (hroom r hmem).1.later (hplain r hmem) (hroom r hmem).2 (by omega)

/-- Whatever the clock does, a stamp is the latest moment that is claimed for its turn. Stamps
increase, none comes before its reading, and one whose reading is later than the stamp before is
that reading. -/
theorem stamps_follow_clock (readings : List Stamp) (hplain : ∀ r ∈ readings, r.IsPlain)
    (hroom : ∀ r ∈ readings, r.InCalendar ∧ (r.later readings.length).InCalendar) :
    (fresh.stamps readings).length = readings.length ∧
    (∀ (i : Nat) (given : Stamp), (fresh.stamps readings)[i]? = some given →
      IsGreatest (claims readings i) given ∧ given.IsPlain ∧ given.InCalendar) ∧
    (fresh.stamps readings).Pairwise (fun a b => a.isBefore b = true) ∧
    (∀ (i : Nat) (reading given : Stamp), readings[i]? = some reading →
      (fresh.stamps readings)[i]? = some given → reading ≤ given) ∧
    (fresh.stamps readings).head? = readings.head? ∧
    ∀ (i : Nat) (previous reading : Stamp), (fresh.stamps readings)[i]? = some previous →
      readings[i + 1]? = some reading → previous.isBefore reading = true →
      (fresh.stamps readings)[i + 1]? = some reading := by
  have hordered := (stamps_ordered (s := fresh) nofun hplain).1
  refine ⟨length_stamps fresh readings, ?_, hordered, ?_, ?_, ?_⟩
  · intro i given hgiven
    have hlatest := isGreatest_claims hplain hgiven
    have hi := (List.getElem?_eq_some_iff.mp hgiven).1
    rw [length_stamps] at hi
    exact ⟨hlatest, isPlain_of_mem_claims hlatest.1,
      inCalendar_of_mem_claims hplain hroom hi hlatest.1⟩
  · intro i reading given hreading hgiven
    have hown := own_mem_claims (hplain reading (List.mem_of_getElem? hreading)) hreading
    exact (isGreatest_claims hplain hgiven).2 hown
  · cases readings <;> rfl
  · intro i previous reading hprevious hreading hlater
    rw [stamps_succ hprevious hreading]
    simp only [stamp, if_pos hlater]

/-- A clock that is set back by a minute after its first reading, runs on, and jumps ahead at last
to the end of a second. -/
def setBack : List Stamp := [⟨59, 999999999⟩, ⟨0, 0⟩, ⟨1, 0⟩, ⟨70, 999999999⟩, ⟨70, 999999999⟩]

/-- The third stamp is two nanoseconds after the first reading, the last one a nanosecond after its
own. -/
theorem stamps_follow_clock_set_back :
    IsGreatest (claims setBack 2) ⟨60, 1⟩ ∧ IsGreatest (claims setBack 4) ⟨71, 0⟩ ∧
      (fresh.stamps setBack)[3]? = some ⟨70, 999999999⟩ := by
  have hplain : ∀ r ∈ setBack, r.IsPlain := by decide
  have hroom : ∀ r ∈ setBack, r.InCalendar ∧ (r.later setBack.length).InCalendar := by decide
  obtain ⟨-, hlatest, -, -, -, hcaughtUp⟩ := stamps_follow_clock setBack hplain hroom
  exact ⟨(hlatest 2 _ rfl).1, (hlatest 4 _ rfl).1, hcaughtUp 2 ⟨60, 1⟩ _ rfl rfl rfl⟩

end Stamper

end PacedImages
