import PacedImages.Proofs.Messaging.Session

/-!
# Requests that crash

A channel is created by the first request that touches its subject, and creating one that nothing
can hold crashes the program. The first request alone decides: later ones find the channel, whatever
depth they give. Everything else is answered, a topic that has no subject with an error. The limit is
that of the size of a buffer; memory is taken as given.
-/

namespace PacedImages

/-! ## Depths -/

namespace Channel

/-- Doubling until `n` is reached ends below twice `n`, if it does not end at once. -/
theorem doubling_bounds {n : Nat} {f : (p : Nat) → p > 0 → Nat}
    (hf : ∀ p (hp : p > 0), f p hp = if p < n then f (p * 2) (Nat.mul_pos hp (by decide)) else p)
    (p : Nat) (hp : p > 0) : n ≤ f p hp ∧ (f p hp = p ∨ f p hp < 2 * n) := by
  rw [hf]
  by_cases hlt : p < n
  · have onward := doubling_bounds hf (p * 2) (Nat.mul_pos hp (by decide))
    rw [if_pos hlt]
    omega
  · rw [if_neg hlt]
    omega
termination_by n - p

theorem nextPowerOfTwo_bounds (n : Nat) :
    n ≤ n.nextPowerOfTwo ∧ (n.nextPowerOfTwo = 1 ∨ n.nextPowerOfTwo < 2 * n) := by
  unfold Nat.nextPowerOfTwo
  refine doubling_bounds (fun p hp => ?_) 1 Nat.one_pos
  -- The loop is private to the library that has it, so its equation is taken from its recursion.
  with_unfolding_all refine (WellFounded.Nat.fix_eq _ _ (⟨p, hp⟩ : PSigma (· > 0))).trans ?_
  by_cases hlt : p < n
  · rw [if_pos hlt]
    with_unfolding_all exact dif_pos hlt
  · rw [if_neg hlt]
    with_unfolding_all exact dif_neg hlt

/-- The deepest that a channel can be before the size of its buffer overflows, 2⁵⁵ messages. -/
def greatestDepth : Nat := 0x80000000000000

theorem nextPowerOfTwo_lt_iff {n : Nat} :
    n.nextPowerOfTwo < capacityLimit ↔ n ≤ greatestDepth := by
  obtain ⟨hle, hsmall⟩ := nextPowerOfTwo_bounds n
  obtain ⟨m, hpower⟩ := Nat.isPowerOfTwo_nextPowerOfTwo n
  have hlimit : capacityLimit = 0x100000000000000 := rfl
  have hgreatest : greatestDepth = 0x80000000000000 := rfl
  constructor
  · intro hlt
    -- A power of two below the limit is at most half of it.
    rcases Nat.lt_or_ge m 56 with hm | hm
    · have hhalf := Nat.pow_le_pow_right Nat.two_pos (Nat.le_of_lt_succ hm)
      omega
    · have hfull := Nat.pow_le_pow_right Nat.two_pos hm
      omega
  · intro hfits
    omega

theorem create?_eq_none_iff {depth : Nat} : create? depth = none ↔ greatestDepth < depth := by
  have hmax : max depth 1 ≤ greatestDepth ↔ depth ≤ greatestDepth := by
    rw [Nat.max_le, and_iff_left (by decide)]
  rw [← Nat.not_le, create?, ite_eq_right_iff, nextPowerOfTwo_lt_iff, hmax]
  constructor
  · exact fun hnone hfits => Option.some_ne_none _ (hnone hfits)
  · exact fun hnot hfits => absurd hfits hnot

end Channel

theorem Bus.advertise?_eq_none_iff {b : Bus} {subject : String} {depth : Nat} :
    b.advertise? subject depth = none ↔
      b.channels[subject]? = none ∧ Channel.greatestDepth < depth := by
  rw [← Option.isNone_iff_eq_none, ← Option.not_isSome, isSome_advertise?, Bool.not_or,
    Bool.and_eq_true, Option.not_isSome, Option.not_isSome, Option.isNone_iff_eq_none,
    Option.isNone_iff_eq_none, Channel.create?_eq_none_iff]

/-! ## Requests -/

/-- What a program asks of a transport. -/
inductive Request where
  | onBus (call : BusCall)
  /-- A topic is registered for publishing, under the subject that a book gives it. -/
  | register (book : SubjectBook) (topic : String) (depth : Nat)

namespace Request

/-- The call that a request makes, none for a topic without a subject. -/
def call? : Request → Option BusCall
  | .onBus call => some call
  | .register book topic depth =>
    match (book.subject topic).1 with
    | .ok subject => some (.advertise subject depth)
    | .error _ => none

/-- The request sees to it that the subject has a channel. -/
def Touches (r : Request) (subject : String) : Prop :=
  (r.call?.bind (Session.capacityBy subject)).isSome

end Request

namespace Session

/-- What a request answers, an error or what is read, and the session after it. There is no answer
if the request cannot be made or if it crashes the program. -/
def answer (s : Session) :
    Request → Option (Except TransportError (List (Nat × Reception)) × Session)
  | .onBus call => (s.step call).map fun (log, s) => (.ok log, s)
  | .register book topic depth =>
    if s.bus.closed then none
    else (s.bus.register? book topic depth).map fun
      | .ok (_, bus) => (.ok [], { s with bus })
      | .error e => (.error e, s)

/-- The session after requests that are all answered. -/
def answerAll : Session → List Request → Option Session
  | s, [] => some s
  | s, r :: rest => do
    let (_, s) ← s.answer r
    s.answerAll rest

/-- There is a bus for the request, or the subscription that it is about. -/
def CanAsk (s : Session) : Request → Prop
  | .onBus (.unsubscribe number) | .onBus (.next number) => (s.held number).isSome
  | _ => s.bus.closed = false

variable {s s' : Session} {r : Request} {call : BusCall} {subject : String}
  {answered : Except TransportError (List (Nat × Reception))}

/-- A call that can be made is answered but for an advertisement that crashes. -/
theorem step_eq_none_iff (can : s.CanAsk (.onBus call)) :
    s.step call = none ↔ ∃ subject depth, call = .advertise subject depth ∧
      s.bus.channels[subject]? = none ∧ Channel.greatestDepth < depth := by
  cases call with
  | advertise subject depth =>
    have hopen : ¬ s.bus.closed = true := by simpa [CanAsk] using can
    rw [step, if_neg hopen, Option.map_eq_none_iff, Bus.advertise?_eq_none_iff]
    constructor
    · exact fun hnone => ⟨subject, depth, rfl, hnone⟩
    · rintro ⟨_, _, heq, hnone⟩
      cases heq
      exact hnone
  | publish subject payload headers =>
    have hopen : ¬ s.bus.closed = true := by simpa [CanAsk] using can
    rw [step, if_neg hopen]
    simp
  | subscribe subject =>
    have hopen : ¬ s.bus.closed = true := by simpa [CanAsk] using can
    rw [step, if_neg hopen]
    simp
  | unsubscribe number =>
    obtain ⟨reader, hheld⟩ := Option.isSome_iff_exists.mp can
    rw [step, hheld]
    simp
  | next number =>
    obtain ⟨reader, hheld⟩ := Option.isSome_iff_exists.mp can
    rw [step, hheld]
    simp
  | close =>
    have hopen : ¬ s.bus.closed = true := by simpa [CanAsk] using can
    rw [step, if_neg hopen]
    simp

theorem answer_register {book : SubjectBook} {topic : String} {depth : Nat}
    (hopen : ¬ s.bus.closed = true) :
    s.answer (.register book topic depth) =
      match (book.subject topic).1 with
      | .ok subject => (s.step (.advertise subject depth)).map fun (log, s) => (.ok log, s)
      | .error e => some (.error e, s) := by
  rw [answer, if_neg hopen, Bus.register?]
  cases (book.subject topic).1 with
  | error e => rfl
  | ok subject =>
    simp only [step, if_neg hopen]
    cases s.bus.advertise? subject depth <;> rfl

/-- A request that is answered makes its call, if it has one, and else changes nothing. -/
theorem answer_eq_some (h : s.answer r = some (answered, s')) :
    (∃ call log, r.call? = some call ∧ s.step call = some (log, s')) ∨ r.call? = none ∧ s' = s := by
  cases r with
  | onBus call =>
    obtain ⟨⟨log, _⟩, hstep, heq⟩ := Option.map_eq_some_iff.mp h
    cases heq
    exact .inl ⟨call, log, rfl, hstep⟩
  | register book topic depth =>
    have hopen : ¬ s.bus.closed = true := by
      intro hclosed
      rw [answer, if_pos hclosed] at h
      cases h
    rw [answer_register hopen] at h
    rw [Request.call?]
    cases hsubject : (book.subject topic).1 with
    | error e =>
      rw [hsubject] at h
      cases h
      exact .inr ⟨rfl, rfl⟩
    | ok subject =>
      rw [hsubject] at h
      obtain ⟨⟨log, _⟩, hstep, heq⟩ := Option.map_eq_some_iff.mp h
      cases heq
      exact .inl ⟨_, log, rfl, hstep⟩

theorem answer_eq_none_iff (can : s.CanAsk r) :
    s.answer r = none ↔ ∃ subject depth, r.call? = some (.advertise subject depth) ∧
      s.bus.channels[subject]? = none ∧ Channel.greatestDepth < depth := by
  cases r with
  | onBus call =>
    rw [answer, Option.map_eq_none_iff, step_eq_none_iff can]
    simp only [Request.call?, Option.some.injEq]
  | register book topic depth =>
    have hopen : ¬ s.bus.closed = true := by simpa [CanAsk] using can
    rw [answer_register hopen, Request.call?]
    cases (book.subject topic).1 with
    | error e => exact ⟨nofun, nofun⟩
    | ok subject =>
      have canAdvertise : s.CanAsk (.onBus (.advertise subject depth)) := can
      rw [Option.map_eq_none_iff, step_eq_none_iff canAdvertise]
      simp only [Option.some.injEq]

/-- A depth of 64 bits, on a transport that nobody has used. -/
theorem deep_queue_crashes :
    Session.empty.CanAsk (.onBus (.advertise "x" 0x8000000000000000)) ∧
      Session.empty.answer (.onBus (.advertise "x" 0x8000000000000000)) = none := by
  have can : Session.empty.CanAsk (.onBus (.advertise "x" 0x8000000000000000)) := rfl
  exact ⟨can, (answer_eq_none_iff can).mpr ⟨"x", 0x8000000000000000, rfl, rfl, by decide⟩⟩

/-- A request gives its subject a channel and takes none away. -/
theorem Sound.answer (sound : Sound s) (h : s.answer r = some (answered, s')) :
    Sound s' ∧ ∀ subject, s'.bus.channels[subject]?.isSome ↔
      s.bus.channels[subject]?.isSome ∨ r.Touches subject := by
  rcases answer_eq_some h with ⟨call, log, hcall, hstep⟩ | ⟨hcall, rfl⟩
  · refine ⟨sound.step hstep, fun subject => ?_⟩
    rw [← isSome_capacity?, ← isSome_capacity?, sound.capacity?_step hstep, Option.isSome_or,
      Bool.or_eq_true, Request.Touches, hcall, Option.bind_some]
  · refine ⟨sound, fun subject => ?_⟩
    simp [Request.Touches, hcall]

/-- After answered requests, the subjects that have a channel are those that were touched. -/
theorem Sound.answerAll {requests : List Request} (sound : Sound s)
    (h : s.answerAll requests = some s') (subject : String) :
    s'.bus.channels[subject]?.isSome ↔
      s.bus.channels[subject]?.isSome ∨ ∃ r ∈ requests, r.Touches subject := by
  induction requests generalizing s with
  | nil =>
    cases h
    simp
  | cons r rest ih =>
    obtain ⟨⟨answered, s₁⟩, hanswer, hrest⟩ := Option.bind_eq_some_iff.mp h
    obtain ⟨sound₁, hthere⟩ := sound.answer hanswer
    simp only [ih sound₁ hrest, hthere, List.mem_cons, exists_eq_or_imp, or_assoc]

/-- After requests that were all answered, the next one crashes exactly if it is the first to touch
its subject and gives a depth that no channel can hold. -/
theorem crashes_iff_first_too_deep {earlier : List Request}
    (h : Session.empty.answerAll earlier = some s) (can : s.CanAsk r) :
    s.answer r = none ↔ ∃ subject depth, r.call? = some (.advertise subject depth) ∧
      Channel.greatestDepth < depth ∧ ∀ q ∈ earlier, ¬ q.Touches subject := by
  rw [answer_eq_none_iff can]
  refine exists_congr fun subject => exists_congr fun depth => and_congr_right fun _ => ?_
  have hthere := Sound.empty.answerAll h subject
  have hnothing : ¬ Session.empty.bus.channels[subject]?.isSome := by
    simp [Session.empty, Bus.empty]
  rw [← Option.not_isSome_iff_eq_none, hthere, not_or, and_iff_right hnothing, and_comm]
  simp only [not_exists, not_and]

end Session

end PacedImages
