import PacedImages.Proofs.Publisher.Loading

/-!
# Counting attempts

While settings are loaded the failed rounds are counted: those in which the source was out of reach,
and those in which it went away while it was asked. After each failed round that does not end with a
request for shutdown the count is the number of failed rounds so far, in whatever way they failed.
The count is held in 32 bits; a limit on the attempts is reached before they overflow.
-/

namespace PacedImages

namespace Settings

/-- The entry for a failed round that was counted. -/
def countEntry (policy : RetryPolicy) (node : String) (n : Nat) : LogEntry :=
  if policy.limit? = some n then exhaustedEntry node n else againEntry node n

theorem countEntry_component (policy : RetryPolicy) (node : String) (n : Nat) :
    (countEntry policy node n).component = .settings := by
  unfold countEntry
  split <;> rfl

end Settings

namespace Course

/-- In how many of the first rounds the source was out of reach. -/
def failedChecks (course : Course) (n : Nat) : Nat :=
  (List.range' 1 n).countP fun i => !(course.round i).isReachable

/-- In how many of the first rounds it was within reach, and then went away. -/
def departures (course : Course) (n : Nat) : Nat :=
  (List.range' 1 n).countP fun i => (course.round i).isReachable && (course.round i).isMissed

/-- The first rounds all failed, and no request for shutdown came meanwhile. -/
def FailsFor (course : Course) (n : Nat) : Prop :=
  ∀ i, 0 < i → i ≤ n → (course.round i).isMissed = true ∧ course.isStopped i = false

variable {β : Type} {course : Course} {w : World (StateM β)} {source : Source (StateM β)}
  {shows : β → Stand → Prop} {policy : RetryPolicy} {attempts : UInt32} {b : β} {v : Stand}
  {n : Nat}

theorem failedChecks_add_departures (fails : course.FailsFor n) :
    course.failedChecks n + course.departures n = n := by
  have hothers : course.departures n =
      (List.range' 1 n).countP fun i => ¬ (!(course.round i).isReachable) = true := by
    refine List.countP_congr fun i hi => ?_
    obtain ⟨hpos, hlt⟩ := List.mem_range'_1.mp hi
    simp [(fails i hpos (by omega)).1]
  rw [hothers, failedChecks, ← List.length_eq_countP_add_countP, List.length_range']

/-- A failed round is counted unless shutdown is requested. -/
theorem Plays.counted (plays : course.Plays w source shows) (node : String) (fuel : Nat)
    (waiting : Waiting policy v attempts)
    (hsize : policy.limit? = none → v.waits + 1 < UInt32.size)
    (hmissed : (course.round (v.waits + 1)).isMissed = true)
    (hrunning : course.isStopped (v.waits + 1) = false) (hb : shows b v) :
    ∃ b', shows b' ⟨v.waits + 1, v.log ++ ((course.round (v.waits + 1)).entries node ++
        [Settings.countEntry policy node (v.waits + 1)])⟩ ∧
      Settings.loadFrom w source policy node (fuel + 1) attempts b =
        if policy.limit? = some (v.waits + 1) then
          (some (.error (.sourceUnavailable (attempts + 1))), b')
        else Settings.loadFrom w source policy node fuel (attempts + 1) b' := by
  have hcount := waiting.succ_toNat hsize
  obtain ⟨b₁, hb₁, hload⟩ := plays.missed policy node fuel attempts hmissed hb
  have hb₂ := plays.report (Settings.countEntry_component policy node (v.waits + 1)) hb₁
  rw [List.append_assoc] at hb₂
  refine ⟨_, hb₂, ?_⟩
  rw [hload, hrunning, if_neg Bool.false_ne_true, hcount]
  have hreaches := reaches_iff (Nat.succ_pos _) hcount waiting.ahead
  unfold Settings.countEntry
  by_cases hlimit : policy.limit? = some (v.waits + 1)
  · rw [if_pos (hreaches.mpr hlimit), if_pos hlimit, if_pos hlimit]
  · rw [if_neg (hreaches.not.mpr hlimit), if_neg hlimit, if_neg hlimit]

/-- Without a limit every failed round is counted in 32 bits. -/
theorem Plays.counts_modulo (plays : course.Plays w source shows) (node : String)
    (count fuel : Nat) (attempts : UInt32) (hlimit : policy.maxAttempts = none)
    (hfails : ∀ i, v.waits < i → i ≤ v.waits + count →
      (course.round i).isMissed = true ∧ course.isStopped i = false) (hb : shows b v) :
    ∃ b' v', shows b' v' ∧ v'.waits = v.waits + count ∧
      Settings.loadFrom w source policy node (fuel + count) attempts b =
        Settings.loadFrom w source policy node fuel (attempts + .ofNat count) b' := by
  induction count generalizing b v attempts with
  | zero => exact ⟨b, v, hb, rfl, by simp⟩
  | succ count ih =>
    obtain ⟨hmissed, hrunning⟩ := hfails (v.waits + 1) (Nat.lt_succ_self _) (by omega)
    obtain ⟨b₁, hb₁, hload⟩ := plays.missed policy node (fuel + count) attempts hmissed hb
    have hb₂ := plays.report (e := Settings.againEntry node (attempts + 1).toNat) rfl hb₁
    obtain ⟨b', v', hb', hwaits, hload'⟩ := ih (attempts + 1)
      (fun i hlt hle => hfails i (Nat.lt_of_succ_lt hlt) (by
        rw [← Nat.add_assoc, Nat.add_right_comm]
        exact hle)) hb₂
    refine ⟨b', v', hb', hwaits.trans (Nat.add_right_comm ..), ?_⟩
    rw [← Nat.add_assoc, hload, hrunning, if_neg Bool.false_ne_true, hlimit, Option.any_none,
      if_neg Bool.false_ne_true, hload', UInt32.add_assoc, UInt32.add_comm 1, UInt32.ofNat_add]
    rfl

/-- Rounds that fail before the limit on the attempts do not end the waiting. -/
theorem FailsFor.not_ends (fails : course.FailsFor n) (hlimit : ∀ m ∈ policy.limit?, n ≤ m)
    {i : Nat} (hpos : 0 < i) (hlt : i < n) : ¬ course.Ends policy i := by
  obtain ⟨hmissed, hrunning⟩ := fails i hpos (Nat.le_of_lt hlt)
  intro hends
  rcases hends hmissed with hstopped | hreached
  · rw [hrunning] at hstopped
    cases hstopped
  · exact absurd (hlimit i hreached) (Nat.not_le_of_lt hlt)

/-- The source goes away, then is out of reach, and then has nothing to say. -/
def leaving : Course where
  round i :=
    if i = 1 then ⟨true, .error (.unavailable "gone")⟩
    else if i = 2 then ⟨false, .error (.unavailable "away")⟩
    else ⟨true, .ok ∅⟩
  isStopped _ := false

/-- The source is out of reach for good. -/
def away : Course where
  round _ := ⟨false, .error (.unavailable "away")⟩
  isStopped _ := false

theorem failedChecks_away (n : Nat) : away.failedChecks n = n := by
  have hall : ∀ i ∈ List.range' 1 n, (!(away.round i).isReachable) = true := fun _ _ => rfl
  rw [failedChecks, List.countP_eq_length.mpr hall, List.length_range']

end Course

namespace Settings

open Course (leaving away)

variable {β : Type} {course : Course} {w : World (StateM β)} {source : Source (StateM β)}
  {shows : β → Stand → Prop} {policy : RetryPolicy} {b : β} {log : List LogEntry} {n : Nat}

/-- After so many failed rounds, whether the source was out of reach in them or went away, the count
is their number: it is reported, and loading goes on with it or fails with it. -/
theorem load_counts_failed_rounds (plays : course.Plays w source shows)
    (hb : shows b ⟨0, log⟩) (node : String) (fuel : Nat) (hpos : 0 < n)
    (fails : course.FailsFor n) (hlimit : ∀ m ∈ policy.limit?, n ≤ m)
    (hrange : policy.maxAttempts = none → n < UInt32.size) :
    ∃ (attempts : UInt32) (reports : List LogEntry) (b' : β),
      attempts.toNat = n ∧ n = course.failedChecks n + course.departures n ∧
      shows b' ⟨n, log ++ (reports ++ [countEntry policy node n])⟩ ∧
      load w source policy node (fuel + n) b =
        if policy.limit? = some n then (some (.error (.sourceUnavailable attempts)), b')
        else loadFrom w source policy node fuel attempts b' := by
  obtain ⟨m, rfl⟩ := Nat.exists_eq_add_one_of_ne_zero (Nat.ne_of_gt hpos)
  obtain ⟨hmissed, hrunning⟩ := fails (m + 1) hpos (Nat.le_refl _)
  have hsize (count : Nat) (hle : count ≤ m + 1) :
      policy.limit? = none → 0 + count < UInt32.size := by
    intro hnone
    have hlt := hrange (Option.map_eq_none_iff.mp hnone)
    omega
  have hgoing : ∀ i, 0 < i → i ≤ 0 + m → ¬ course.Ends policy i :=
    fun i hi hle => fails.not_ends hlimit hi (by omega)
  obtain ⟨b₁, attempts, hb₁, waiting, hload⟩ :=
    plays.go_on node m (fuel + 1) (.start policy log) (hsize m (Nat.le_succ m)) hgoing hb
  rw [Nat.zero_add] at hb₁ waiting
  have hroom : policy.limit? = none → m + 1 < UInt32.size := fun hnone => by
    simpa using hsize (m + 1) (Nat.le_refl _) hnone
  obtain ⟨b₂, hb₂, hlast⟩ := plays.counted node fuel waiting hroom hmissed hrunning hb₁
  refine ⟨attempts + 1, againEntries course node 1 m ++ (course.round (m + 1)).entries node, b₂,
    waiting.succ_toNat hroom, (Course.failedChecks_add_departures fails).symm, ?_, ?_⟩
  · rw [List.append_assoc] at hb₂ ⊢
    exact hb₂
  · rw [load, show fuel + (m + 1) = fuel + 1 + m by omega, hload, hlast]

/-- A source that goes away, is out of reach and goes away again, when the limit is three. -/
theorem load_counts_failed_rounds_at_limit :
    let course : Course :=
      { round := fun i => if i = 2 then ⟨false, .error (.unavailable "away")⟩
          else ⟨true, .error (.unavailable "gone")⟩
        isStopped := fun _ => false }
    course.failedChecks 3 = 1 ∧ course.departures 3 = 2 ∧ ∃ reports,
      load course.asWorld course.asSource ⟨0, some 3⟩ "camera" 3 ⟨0, []⟩ =
        (some (.error (.sourceUnavailable 3)), ⟨3, reports ++ [exhaustedEntry "camera" 3]⟩) := by
  intro course
  have fails : course.FailsFor 3 := by
    intro i hpos hle
    have hi : i = 1 ∨ i = 2 ∨ i = 3 := by omega
    rcases hi with rfl | rfl | rfl <;> exact ⟨rfl, rfl⟩
  have begun : (⟨0, []⟩ : Stand) = ⟨0, []⟩ := rfl
  have hlimit : ∀ m ∈ RetryPolicy.limit? ⟨0, some 3⟩, 3 ≤ m := by simp [RetryPolicy.limit?]
  obtain ⟨attempts, reports, b', hcount, -, rfl, hload⟩ :=
    load_counts_failed_rounds course.plays begun "camera" 0 (by decide) fails hlimit nofun
  obtain rfl : attempts = 3 := UInt32.toNat_inj.mp hcount
  exact ⟨by decide, by decide, reports, hload⟩

/-- One check fails, behind a round in which the source went away, and the count is two. Nor is the
count their number when so many checks fail as 32 bits count: without a limit it starts anew. -/
theorem count_differs_from_failed_checks :
    (leaving.failedChecks 2 = 1 ∧
      load leaving.asWorld leaving.asSource .standard "camera" 3 ⟨0, []⟩ =
        (some (.ok standard), ⟨3, (leaving.round 1).entries "camera" ++
          [againEntry "camera" 1, againEntry "camera" 2, loadedEntry "camera" standard]⟩)) ∧
    away.failedChecks UInt32.size = UInt32.size ∧
      ∀ fuel, ∃ v : Stand, v.waits = UInt32.size ∧
        load away.asWorld away.asSource .standard "camera" (fuel + UInt32.size) ⟨0, []⟩ =
          loadFrom away.asWorld away.asSource .standard "camera" fuel 0 v := by
  refine ⟨⟨by decide, rfl⟩, Course.failedChecks_away _, ?_⟩
  intro fuel
  have begun : (⟨0, []⟩ : Stand) = ⟨0, []⟩ := rfl
  have hlimit : RetryPolicy.standard.maxAttempts = none := rfl
  obtain ⟨v, _, rfl, hwaits, hload⟩ :=
    away.plays.counts_modulo "camera" UInt32.size fuel 0 hlimit (fun _ _ _ => ⟨rfl, rfl⟩) begun
  exact ⟨v, hwaits.trans (Nat.zero_add _), hload⟩

end Settings

end PacedImages
