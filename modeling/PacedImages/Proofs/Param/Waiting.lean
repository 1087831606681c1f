import PacedImages.Proofs.Dispatch.Loop
import PacedImages.Proofs.Param.FileWatch

/-!
# Waiting for a file

While the file is missing it is looked for every so often, and once more when the time is up. The
first look that finds it ends the waiting, and so does the last one. Only sleeping takes time here,
and whether the file is there at an instant is any function of the instant.
-/

namespace PacedImages

/-! ## When to look -/

/-- After how long the file is looked for, unless it was found before: at every multiple of the
pause that lies before the timeout, and at the timeout. -/
def lookTimes (timeout poll : Nat) : List Nat :=
  (List.range ((timeout + poll - 1) / poll)).map (· * poll) ++ [timeout]

/-- What looks are still to come after one: none after that at the timeout, and else a next one
after the pause or what is left of it. -/
inductive Ahead (timeout poll : Nat) : Nat → List Nat → Prop
  | last : Ahead timeout poll timeout []
  | next {e : Nat} {rest : List Nat} : e < timeout →
    Ahead timeout poll (e + min poll (timeout - e)) rest →
    Ahead timeout poll e ((e + min poll (timeout - e)) :: rest)

section

variable {timeout poll : Nat}

theorem lt_looks_iff (hpoll : 0 < poll) {k : Nat} :
    k < (timeout + poll - 1) / poll ↔ k * poll < timeout := by
  have hsucc : (k + 1) * poll = k * poll + poll := Nat.succ_mul k poll
  rw [Nat.lt_iff_add_one_le, Nat.le_div_iff_mul_le hpoll]
  omega

theorem mem_lookTimes (hpoll : 0 < poll) {t : Nat} :
    t ∈ lookTimes timeout poll ↔ t = timeout ∨ t < timeout ∧ poll ∣ t := by
  simp only [lookTimes, List.mem_append, List.mem_map, List.mem_range, List.mem_singleton]
  constructor
  · rintro (⟨k, hk, rfl⟩ | rfl)
    · exact Or.inr ⟨(lt_looks_iff hpoll).mp hk, Nat.dvd_mul_left poll k⟩
    · exact Or.inl rfl
  · rintro (rfl | ⟨hlt, k, rfl⟩)
    · exact Or.inr rfl
    · rw [Nat.mul_comm] at hlt
      exact Or.inl ⟨k, (lt_looks_iff hpoll).mpr hlt, Nat.mul_comm k poll⟩

theorem lookTimes_increasing (hpoll : 0 < poll) : (lookTimes timeout poll).Pairwise (· < ·) := by
  unfold lookTimes
  refine List.pairwise_append.mpr ⟨?_, List.pairwise_singleton _ _, ?_⟩
  · refine List.pairwise_map.mpr (List.pairwise_lt_range.imp ?_)
    intro a b hab
    exact Nat.mul_lt_mul_of_pos_right hab hpoll
  · intro t ht u hu
    obtain ⟨k, hk, rfl⟩ := List.mem_map.mp ht
    obtain rfl := List.mem_singleton.mp hu
    exact (lt_looks_iff hpoll).mp (List.mem_range.mp hk)

theorem length_lookTimes_le (timeout : Nat) (hpoll : 0 < poll) :
    (lookTimes timeout poll).length ≤ timeout / poll + 2 := by
  have hle : (timeout + poll - 1) / poll ≤ timeout / poll + 1 := by
    rw [← Nat.add_div_right timeout hpoll]
    exact Nat.div_le_div_right (Nat.sub_le _ _)
  simp only [lookTimes, List.length_append, List.length_map, List.length_range, List.length_cons,
    List.length_nil]
  omega

/-- From any turn on, the rest of the looks follow one another. -/
theorem ahead_from (hpoll : 0 < poll) (k count : Nat)
    (hcount : k + count = (timeout + poll - 1) / poll) :
    ∃ rest, (List.range' k count).map (· * poll) ++ [timeout] = (k * poll).min timeout :: rest ∧
      Ahead timeout poll ((k * poll).min timeout) rest := by
  induction count generalizing k with
  | zero =>
    have hlate : ¬ k * poll < timeout := by
      rw [← lt_looks_iff hpoll]
      omega
    have hend : (k * poll).min timeout = timeout := Nat.min_eq_right (Nat.le_of_not_lt hlate)
    rw [hend]
    exact ⟨[], rfl, .last⟩
  | succ count ih =>
    have hearly : k * poll < timeout := (lt_looks_iff hpoll).mp (by omega)
    have hnow : (k * poll).min timeout = k * poll := Nat.min_eq_left (Nat.le_of_lt hearly)
    obtain ⟨rest, hrest, ahead⟩ := ih (k + 1) (by omega)
    have hnext : ((k + 1) * poll).min timeout = k * poll + min poll (timeout - k * poll) := by
      show min ((k + 1) * poll) timeout = _
      have hsucc : (k + 1) * poll = k * poll + poll := Nat.succ_mul k poll
      omega
    rw [hnext] at hrest ahead
    rw [hnow]
    exact ⟨_, congrArg (k * poll :: ·) hrest, .next hearly ahead⟩

theorem ahead_lookTimes (timeout : Nat) (hpoll : 0 < poll) :
    ∃ rest, lookTimes timeout poll = 0 :: rest ∧ Ahead timeout poll 0 rest := by
  obtain ⟨rest, hrest, ahead⟩ := ahead_from hpoll 0 _ (Nat.zero_add _)
  rw [Nat.zero_mul, show Nat.min 0 timeout = 0 from Nat.zero_min timeout] at hrest ahead
  rw [← List.range_eq_range'] at hrest
  exact ⟨rest, hrest, ahead⟩

end

namespace FileWatch

variable {β : Type} {w : World (StateM β)} {file : ParamFile (StateM β)} {exact : Instant → Prop}
  {isThere : Instant → Bool} {shows : β → Looks → Prop} {b : β} {v : Looks}
  {start deadline timeout poll e : Nat} {rest : List Nat} {made : List Instant}

/-! ## One look -/

theorem pollFile_succ (w : World (StateM β)) (file : ParamFile (StateM β)) (poll : Duration)
    (deadline : Instant) (fuel : Nat) (b : β) :
    Source.pollFile w file poll deadline (fuel + 1) b =
      let looked := file.isThere b
      if looked.1 then (true, looked.2)
      else
        let read := w.now looked.2
        if deadline ≤ read.1 then (false, read.2)
        else
          Source.pollFile w file poll deadline fuel
            (w.sleepUntil (read.1 + min poll (deadline - read.1)) read.2).2 := by
  rw [Source.pollFile, bind_apply]
  rcases file.isThere b with ⟨_ | _, b₁⟩
  · simp only [Bool.false_eq_true, if_false]
    rw [bind_apply]
    rcases w.now b₁ with ⟨now, b₂⟩
    by_cases hlate : deadline ≤ now
    · simp only [if_pos hlate]
      rfl
    · simp only [if_neg hlate]
      rfl
  · rfl

theorem look_finds (watch : FileWatch w file exact isThere shows) (poll deadline fuel : Nat)
    (hb : shows b v) (hthere : isThere v.clock = true) :
    ∃ b', Source.pollFile w file poll deadline (fuel + 1) b = (true, b') ∧ shows b' v.look := by
  obtain ⟨hlooked, hb₁⟩ := watch.look hb
  refine ⟨_, ?_, hb₁⟩
  simp only [pollFile_succ, hlooked, hthere, if_true]

theorem look_last (watch : FileWatch w file exact isThere shows) (poll fuel : Nat)
    (hb : shows b v) (hmissing : isThere v.clock = false) (hlate : deadline ≤ v.clock) :
    ∃ b', Source.pollFile w file poll deadline (fuel + 1) b = (false, b') ∧ shows b' v.look := by
  obtain ⟨hlooked, hb₁⟩ := watch.look hb
  obtain ⟨hread, hb₂⟩ := watch.now hb₁
  refine ⟨_, ?_, hb₂⟩
  simp only [pollFile_succ, hlooked, hmissing, hread, Looks.look, if_pos hlate, Bool.false_eq_true,
    if_false]

theorem look_again (watch : FileWatch w file exact isThere shows) (fuel : Nat) (hpoll : 0 < poll)
    (hb : shows b v) (hmissing : isThere v.clock = false) (hearly : v.clock < deadline)
    (hexact : exact (v.clock + min poll (deadline - v.clock))) :
    ∃ b', shows b' { v.look with clock := v.clock + min poll (deadline - v.clock) } ∧
      Source.pollFile w file poll deadline (fuel + 1) b =
        Source.pollFile w file poll deadline fuel b' := by
  obtain ⟨hlooked, hb₁⟩ := watch.look hb
  obtain ⟨hread, hb₂⟩ := watch.now hb₁
  have hahead : v.clock < v.clock + min poll (deadline - v.clock) :=
    Nat.lt_add_of_pos_right (Nat.lt_min.mpr ⟨hpoll, Nat.sub_pos_of_lt hearly⟩)
  refine ⟨_, watch.sleep _ hb₂ hahead hexact, ?_⟩
  simp only [pollFile_succ, hlooked, hmissing, hread, Looks.look, if_neg (Nat.not_le_of_lt hearly),
    Bool.false_eq_true, if_false]

/-! ## All looks -/

/-- Of some instants one is the first that passes a test, or none does. -/
theorem exists_first (p : Nat → Bool) (times : List Nat) :
    (∃ earlier t later, times = earlier ++ t :: later ∧ (∀ u ∈ earlier, p u = false) ∧
      p t = true) ∨ ∀ t ∈ times, p t = false := by
  cases hfound : times.find? p with
  | none =>
    right
    simpa using List.find?_eq_none.mp hfound
  | some t =>
    obtain ⟨hpasses, earlier, later, hsplit, hothers⟩ := List.find?_eq_some_iff_append.mp hfound
    left
    exact ⟨earlier, t, later, hsplit, fun u hu => by simpa using hothers u hu, hpasses⟩

/-- Between two looks the time passes that lies between them. -/
theorem next (watch : FileWatch w file exact isThere shows) (fuel : Nat) (hpoll : 0 < poll)
    (hearly : e < timeout) (hb : shows b ⟨start + e, made⟩)
    (hmissing : isThere (start + e) = false)
    (hexact : exact (start + (e + min poll (timeout - e)))) :
    ∃ b', shows b' ⟨start + (e + min poll (timeout - e)), made ++ [start + e]⟩ ∧
      Source.pollFile w file poll (start + timeout) (fuel + 1) b =
        Source.pollFile w file poll (start + timeout) fuel b' := by
  have hnext : start + e + min poll (start + timeout - (start + e)) =
      start + (e + min poll (timeout - e)) := by omega
  rw [← hnext] at hexact ⊢
  exact watch.look_again fuel hpoll hb hmissing (Nat.add_lt_add_left hearly start) hexact

/-- The first look that finds the file is the last that is made. -/
theorem finds (watch : FileWatch w file exact isThere shows) (hpoll : 0 < poll)
    (ahead : Ahead timeout poll e rest) (hexact : ∀ t ∈ rest, exact (start + t))
    {earlier later : List Nat} {t : Nat} (hsplit : e :: rest = earlier ++ t :: later)
    (hmissing : ∀ u ∈ earlier, isThere (start + u) = false) (hthere : isThere (start + t) = true)
    (hb : shows b ⟨start + e, made⟩) {fuel : Nat} (hfuel : rest.length < fuel) :
    ∃ b', Source.pollFile w file poll (start + timeout) fuel b = (true, b') ∧
      shows b' ⟨start + t, made ++ (earlier ++ [t]).map (start + ·)⟩ := by
  obtain ⟨fuel, rfl⟩ := Nat.exists_eq_add_one_of_ne_zero (Nat.ne_zero_of_lt hfuel)
  induction ahead generalizing b made earlier fuel with
  | last =>
    cases earlier with
    | nil =>
      obtain ⟨rfl, -⟩ := List.cons.inj hsplit
      exact watch.look_finds poll _ fuel hb hthere
    | cons u earlier =>
      have hnil := (List.cons.inj hsplit).2
      simp at hnil
  | @next e rest hearly ahead ih =>
    cases earlier with
    | nil =>
      obtain ⟨rfl, -⟩ := List.cons.inj hsplit
      exact watch.look_finds poll _ fuel hb hthere
    | cons u earlier =>
      obtain ⟨rfl, hrest⟩ := List.cons.inj hsplit
      obtain ⟨b₁, hb₁, hnext⟩ := watch.next fuel hpoll hearly hb
        (hmissing _ List.mem_cons_self) (hexact _ List.mem_cons_self)
      obtain ⟨fuel, rfl⟩ := Nat.exists_eq_add_one_of_ne_zero
        (Nat.ne_zero_of_lt (Nat.lt_of_succ_lt_succ hfuel))
      obtain ⟨b', hfound, hb'⟩ := ih (fun t ht => hexact t (List.mem_cons_of_mem _ ht)) hrest
        (fun u hu => hmissing u (List.mem_cons_of_mem _ hu)) hb₁ fuel
        (Nat.lt_of_succ_lt_succ hfuel)
      refine ⟨b', hnext.trans hfound, ?_⟩
      rw [List.append_assoc] at hb'
      exact hb'

/-- If no look finds the file, all are made. -/
theorem misses (watch : FileWatch w file exact isThere shows) (hpoll : 0 < poll)
    (ahead : Ahead timeout poll e rest) (hexact : ∀ t ∈ rest, exact (start + t))
    (hmissing : ∀ u ∈ e :: rest, isThere (start + u) = false)
    (hb : shows b ⟨start + e, made⟩) {fuel : Nat} (hfuel : rest.length < fuel) :
    ∃ b', Source.pollFile w file poll (start + timeout) fuel b = (false, b') ∧
      shows b' ⟨start + timeout, made ++ (e :: rest).map (start + ·)⟩ := by
  obtain ⟨fuel, rfl⟩ := Nat.exists_eq_add_one_of_ne_zero (Nat.ne_zero_of_lt hfuel)
  induction ahead generalizing b made fuel with
  | last =>
    exact watch.look_last poll fuel hb (hmissing _ List.mem_cons_self) (Nat.le_refl _)
  | @next e rest hearly ahead ih =>
    obtain ⟨b₁, hb₁, hnext⟩ := watch.next fuel hpoll hearly hb
      (hmissing _ List.mem_cons_self) (hexact _ List.mem_cons_self)
    obtain ⟨fuel, rfl⟩ := Nat.exists_eq_add_one_of_ne_zero
      (Nat.ne_zero_of_lt (Nat.lt_of_succ_lt_succ hfuel))
    obtain ⟨b', hmissed, hb'⟩ := ih (fun t ht => hexact t (List.mem_cons_of_mem _ ht))
      (fun u hu => hmissing u (List.mem_cons_of_mem _ hu)) hb₁ fuel (Nat.lt_of_succ_lt_succ hfuel)
    refine ⟨b', hnext.trans hmissed, ?_⟩
    rw [List.append_assoc] at hb'
    exact hb'

/-! ## The wait -/

section

variable (readDocument : DocumentReader) (ns : Option String)

theorem wait_eq (watch : FileWatch w file exact isThere shows) (poll timeout : Nat)
    (hb : shows b v) :
    ∃ b', shows b' v ∧ (Source.file w readDocument file ns poll).wait timeout b =
      Source.pollFile w file poll (v.clock + timeout) (timeout / poll + 2) b' := by
  obtain ⟨hread, hb'⟩ := watch.now hb
  refine ⟨_, hb', ?_⟩
  simp only [Source.file, bind_apply, hread]

/-- The looks are as many as the fuel allows, or fewer. -/
theorem exists_ahead (timeout : Nat) (hpoll : 0 < poll) :
    ∃ rest, lookTimes timeout poll = 0 :: rest ∧ Ahead timeout poll 0 rest ∧
      rest.length < timeout / poll + 2 := by
  obtain ⟨rest, hlooks, ahead⟩ := ahead_lookTimes timeout hpoll
  have hlength := length_lookTimes_le timeout hpoll
  rw [hlooks] at hlength
  exact ⟨rest, hlooks, ahead, hlength⟩

theorem wait_finds (watch : FileWatch w file exact isThere shows) (hpoll : 0 < poll)
    (hexact : ∀ t ∈ lookTimes timeout poll, exact (start + t)) (hb : shows b ⟨start, made⟩)
    {earlier later : List Nat} {t : Nat} (hsplit : lookTimes timeout poll = earlier ++ t :: later)
    (hmissing : ∀ u ∈ earlier, isThere (start + u) = false) (hthere : isThere (start + t) = true) :
    ∃ b', (Source.file w readDocument file ns poll).wait timeout b = (true, b') ∧
      shows b' ⟨start + t, made ++ (earlier ++ [t]).map (start + ·)⟩ := by
  obtain ⟨b₁, hb₁, hwait⟩ := watch.wait_eq readDocument ns poll timeout hb
  obtain ⟨rest, hlooks, ahead, hfuel⟩ := exists_ahead timeout hpoll
  rw [hlooks] at hexact hsplit
  rw [hwait]
  exact watch.finds hpoll ahead (fun u hu => hexact u (List.mem_cons_of_mem 0 hu)) hsplit hmissing
    hthere hb₁ hfuel

theorem wait_misses (watch : FileWatch w file exact isThere shows) (hpoll : 0 < poll)
    (hexact : ∀ t ∈ lookTimes timeout poll, exact (start + t)) (hb : shows b ⟨start, made⟩)
    (hmissing : ∀ t ∈ lookTimes timeout poll, isThere (start + t) = false) :
    ∃ b', (Source.file w readDocument file ns poll).wait timeout b = (false, b') ∧
      shows b' ⟨start + timeout, made ++ (lookTimes timeout poll).map (start + ·)⟩ := by
  obtain ⟨b₁, hb₁, hwait⟩ := watch.wait_eq readDocument ns poll timeout hb
  obtain ⟨rest, hlooks, ahead, hfuel⟩ := exists_ahead timeout hpoll
  rw [hlooks] at hexact hmissing ⊢
  rw [hwait]
  exact watch.misses hpoll ahead (fun u hu => hexact u (List.mem_cons_of_mem 0 hu)) hmissing hb₁
    hfuel

end

/-- The file is looked for at every multiple of the pause before the timeout, and at the timeout.
The first look that finds it ends the waiting, which otherwise ends at the timeout; it never lasts
longer. A file that is there from some instant on through the timeout is found. -/
theorem wait_looks_until_there (watch : FileWatch w file exact isThere shows)
    (readDocument : DocumentReader) (ns : Option String) (hpoll : 0 < poll)
    (hexact : ∀ t ∈ lookTimes timeout poll, exact (start + t)) (hb : shows b ⟨start, made⟩) :
    let source := Source.file w readDocument file ns poll
    ((lookTimes timeout poll).Pairwise (· < ·) ∧
      ∀ t, t ∈ lookTimes timeout poll ↔ t = timeout ∨ t < timeout ∧ poll ∣ t) ∧
    (∀ earlier t later, lookTimes timeout poll = earlier ++ t :: later →
      (∀ u ∈ earlier, isThere (start + u) = false) → isThere (start + t) = true →
      ∃ b', source.wait timeout b = (true, b') ∧
        shows b' ⟨start + t, made ++ (earlier ++ [t]).map (start + ·)⟩) ∧
    ((∀ t ∈ lookTimes timeout poll, isThere (start + t) = false) →
      ∃ b', source.wait timeout b = (false, b') ∧
        shows b' ⟨start + timeout, made ++ (lookTimes timeout poll).map (start + ·)⟩) ∧
    (∃ found b' v', source.wait timeout b = (found, b') ∧ shows b' v' ∧
      v'.clock ≤ start + timeout) ∧
    (timeout = 0 → lookTimes timeout poll = [0]) ∧
    ∀ s, s ≤ timeout → (∀ t, s ≤ t → t ≤ timeout → isThere (start + t) = true) →
      (source.wait timeout b).1 = true := by
  intro source
  have hends := exists_first (fun t => isThere (start + t)) (lookTimes timeout poll)
  refine ⟨⟨lookTimes_increasing hpoll, fun t => mem_lookTimes hpoll⟩, ?_, ?_, ?_, ?_, ?_⟩
  · intro earlier t later hsplit hmissing hthere
    exact watch.wait_finds readDocument ns hpoll hexact hb hsplit hmissing hthere
  · intro hmissing
    exact watch.wait_misses readDocument ns hpoll hexact hb hmissing
  · rcases hends with ⟨earlier, t, later, hsplit, hmissing, hthere⟩ | hmissing
    · obtain ⟨b', hfound, hb'⟩ :=
        watch.wait_finds readDocument ns hpoll hexact hb hsplit hmissing hthere
      refine ⟨true, b', _, hfound, hb', Nat.add_le_add_left ?_ start⟩
      have hmem : t ∈ lookTimes timeout poll := by simp [hsplit]
      rcases (mem_lookTimes hpoll).mp hmem with rfl | ⟨hlt, -⟩
      · exact Nat.le_refl _
      · exact Nat.le_of_lt hlt
    · obtain ⟨b', hmissed, hb'⟩ := watch.wait_misses readDocument ns hpoll hexact hb hmissing
      exact ⟨false, b', _, hmissed, hb', Nat.le_refl _⟩
  · rintro rfl
    obtain ⟨rest, hlooks, ahead, -⟩ := exists_ahead 0 hpoll
    cases ahead with
    | last => exact hlooks
    | next hearly => cases hearly
  · intro s hs hstays
    rcases hends with ⟨earlier, t, later, hsplit, hmissing, hthere⟩ | hmissing
    · obtain ⟨b', hfound, -⟩ :=
        watch.wait_finds readDocument ns hpoll hexact hb hsplit hmissing hthere
      rw [hfound]
    · have hthere := hstays timeout hs (Nat.le_refl _)
      have hlast := hmissing timeout ((mem_lookTimes hpoll).mpr (Or.inl rfl))
      rw [hthere] at hlast
      cases hlast

/-- The pause does not divide the timeout, and the file is written between the last two looks. -/
theorem wait_looks_until_there_clipped :
    let plan : List (Nat × Happening Scene) :=
      [(22, ⟨fun s => { s with file := s.file.write ⟨#[]⟩ }, false⟩)]
    let file := (Scene.paramFile "params.yaml").watched (·.clock)
    let source := Source.file (Scene.world.over Watched.carry) (fun _ => .ok .null) file none
      (Time.millis 10)
    ∃ b', source.wait (Time.millis 25) ⟨{ Bench.fresh .fresh with plan }, []⟩ = (true, b') ∧
      Scene.ShowsFile plan .fresh b'
        ⟨Time.millis 25, [Time.millis 0, Time.millis 10, Time.millis 20, Time.millis 25]⟩ := by
  intro plan file source
  have hlooks : lookTimes (Time.millis 25) (Time.millis 10) =
      [Time.millis 0, Time.millis 10, Time.millis 20] ++ Time.millis 25 :: [] := by decide
  have hwhole : ∀ t ∈ lookTimes (Time.millis 25) (Time.millis 10), Time.IsWhole (0 + t) := by
    rw [hlooks]
    simp only [List.mem_append, List.mem_cons, List.not_mem_nil, or_false, Nat.zero_add]
    rintro t ((rfl | rfl | rfl) | rfl) <;> exact ⟨_, rfl⟩
  have hshows : Scene.ShowsFile plan .fresh ⟨{ Bench.fresh .fresh with plan }, []⟩ ⟨0, []⟩ :=
    ⟨⟨0, rfl, rfl, rfl, rfl, rfl⟩, rfl⟩
  obtain ⟨-, hfinds, -⟩ := wait_looks_until_there (Scene.fileWatch plan .fresh "params.yaml")
    (fun _ => .ok .null) none (by decide) hwhole hshows
  exact hfinds _ _ _ hlooks (by decide) rfl

end FileWatch

end PacedImages
