import PacedImages.Messaging.Bus
import PacedImages.Proofs.Messaging.Channel

/-!
# Sessions on a bus

A session is a bus with all subscriptions made on it, numbered in the order in which they were made.
Whatever is called, every channel counts the subscriptions that read it, keeps the end of some
history, and has the capacity that the first call on its subject gave it.
-/

namespace PacedImages

/-- A call on a bus or on a subscription. -/
inductive BusCall where
  | advertise (subject : String) (depth : Nat)
  | publish (subject : String) (payload : ByteArray) (headers : Headers)
  | subscribe (subject : String)
  | unsubscribe (number : Nat)
  | next (number : Nat)
  | close

structure Session where
  bus : Bus
  /-- The subscriptions by number, `none` for one given up. -/
  subscriptions : List (Option Subscription)

namespace Session

def empty : Session := ⟨.empty, []⟩

def held (s : Session) (number : Nat) : Option Subscription := s.subscriptions[number]?.join

/-- What a call reads, with the number of the subscription, and the session after it. There is none
for a call that cannot be made: one on a bus that is gone or on a subscription that is not held, and
an advertisement that no channel can hold. -/
def step (s : Session) : BusCall → Option (List (Nat × Reception) × Session)
  | .advertise subject depth =>
    if s.bus.closed then none
    else (s.bus.advertise? subject depth).map fun bus => ([], { s with bus })
  | .publish subject payload headers =>
    if s.bus.closed then none
    else some ([], { s with bus := s.bus.publish subject payload headers })
  | .subscribe subject =>
    if s.bus.closed then none
    else
      let (bus, made) := s.bus.subscribe subject
      some ([], ⟨bus, s.subscriptions ++ [some made]⟩)
  | .unsubscribe number =>
    (s.held number).map fun given =>
      ([], ⟨s.bus.unsubscribe given, s.subscriptions.set number none⟩)
  | .next number =>
    (s.held number).map fun reader =>
      let (found, reader) := s.bus.receive reader
      ([(number, found)], { s with subscriptions := s.subscriptions.set number (some reader) })
  | .close => if s.bus.closed then none else some ([], { s with bus := s.bus.close })

/-- What calls read, one after the other, if all of them can be made. -/
def run : Session → List BusCall → Option (List (Nat × Reception) × Session)
  | s, [] => some ([], s)
  | s, call :: rest => do
    let (log, s) ← s.step call
    let (later, s) ← s.run rest
    return (log ++ later, s)

/-- How many of the subscriptions read a subject. -/
def readers (subscriptions : List (Option Subscription)) (subject : String) : Nat :=
  subscriptions.countP fun entry => entry.any (·.subject == subject)

end Session

namespace Bus

variable {b : Bus} {subject other : String}

theorem channel_setChannel (c : Channel) :
    (b.setChannel subject c).channel other = if subject = other then c else b.channel other := by
  simp only [Bus.setChannel, Bus.channel, Std.ExtTreeMap.getElem?_insert,
    Std.LawfulEqCmp.compare_eq_iff_eq]
  split <;> rfl

theorem channels_setChannel (c : Channel) :
    (b.setChannel subject c).channels[other]? =
      if subject = other then some c else b.channels[other]? := by
  simp only [Bus.setChannel, Std.ExtTreeMap.getElem?_insert, Std.LawfulEqCmp.compare_eq_iff_eq]

theorem channel_publish (payload : ByteArray) (headers : Headers) :
    (b.publish subject payload headers).channel other =
      if subject = other then (b.channel subject).send ⟨subject, payload, headers, b.published⟩
      else b.channel other :=
  channel_setChannel _

/-- An advertisement is accepted if the subject has a channel or can have one of that depth. -/
theorem isSome_advertise? (b : Bus) (subject : String) (depth : Nat) :
    (b.advertise? subject depth).isSome =
      (b.channels[subject]?.isSome || (Channel.create? depth).isSome) := by
  rw [Bus.advertise?, Std.ExtTreeMap.contains_eq_isSome_getElem?]
  cases b.channels[subject]?.isSome with
  | true => rfl
  | false => exact Option.isSome_map

/-- An advertisement creates a channel or finds one. -/
theorem advertise?_cases {depth : Nat} {b' : Bus} (h : b.advertise? subject depth = some b') :
    (b.channels[subject]?.isSome ∧ b' = b) ∨
      (b.channels[subject]? = none ∧
        b' = b.setChannel subject ⟨(max depth 1).nextPowerOfTwo, 0, [], 0⟩) := by
  rw [Bus.advertise?] at h
  split at h
  · next hthere =>
    rw [Std.ExtTreeMap.contains_eq_isSome_getElem?] at hthere
    exact Or.inl ⟨hthere, (Option.some.inj h).symm⟩
  · next hmissing =>
    rw [Std.ExtTreeMap.contains_eq_isSome_getElem?, Option.not_isSome_iff_eq_none] at hmissing
    refine Or.inr ⟨hmissing, ?_⟩
    simp only [Channel.create?] at h
    split at h
    · simpa [Bus.setChannel] using h.symm
    · cases h

end Bus

namespace Session

variable {s s' : Session} {call : BusCall} {log : List (Nat × Reception)} {subject : String}
  {number : Nat}

/-! ## What a call does -/

theorem step_advertise {depth : Nat} (h : s.step (.advertise subject depth) = some (log, s')) :
    s.bus.closed = false ∧ log = [] ∧
      ((s.bus.channels[subject]?.isSome ∧ s' = s) ∨
        (s.bus.channels[subject]? = none ∧
          s' = ⟨s.bus.setChannel subject ⟨(max depth 1).nextPowerOfTwo, 0, [], 0⟩,
            s.subscriptions⟩)) := by
  simp only [Session.step, Option.ite_none_left_eq_some, Option.map_eq_some_iff,
    Bool.not_eq_true] at h
  obtain ⟨hopen, bus, hbus, heq⟩ := h
  obtain ⟨hlog, rfl⟩ := Prod.mk.inj heq
  refine ⟨hopen, hlog.symm, ?_⟩
  rcases Bus.advertise?_cases hbus with ⟨hthere, rfl⟩ | ⟨hmissing, rfl⟩
  · exact Or.inl ⟨hthere, rfl⟩
  · exact Or.inr ⟨hmissing, rfl⟩

theorem step_publish {payload : ByteArray} {headers : Headers}
    (h : s.step (.publish subject payload headers) = some (log, s')) :
    s.bus.closed = false ∧ log = [] ∧
      s' = { s with bus := s.bus.publish subject payload headers } := by
  simp only [Session.step, Option.ite_none_left_eq_some, Bool.not_eq_true] at h
  obtain ⟨hopen, heq⟩ := h
  obtain ⟨hlog, rfl⟩ := Prod.mk.inj (Option.some.inj heq)
  exact ⟨hopen, hlog.symm, rfl⟩

theorem step_subscribe (h : s.step (.subscribe subject) = some (log, s')) :
    s.bus.closed = false ∧ log = [] ∧
      s' = ⟨s.bus.setChannel subject
          ((s.bus.channel subject).setReaders ((s.bus.channel subject).readers + 1)),
        s.subscriptions ++ [some ⟨subject, (s.bus.channel subject).sent⟩]⟩ := by
  simp only [Session.step, Option.ite_none_left_eq_some, Bool.not_eq_true] at h
  obtain ⟨hopen, heq⟩ := h
  obtain ⟨hlog, rfl⟩ := Prod.mk.inj (Option.some.inj heq)
  exact ⟨hopen, hlog.symm, rfl⟩

theorem step_unsubscribe (h : s.step (.unsubscribe number) = some (log, s')) :
    ∃ reader, s.held number = some reader ∧ log = [] ∧
      s' = ⟨s.bus.setChannel reader.subject ((s.bus.channel reader.subject).setReaders
          ((s.bus.channel reader.subject).readers - 1)),
        s.subscriptions.set number none⟩ := by
  simp only [Session.step, Option.map_eq_some_iff] at h
  obtain ⟨reader, hheld, heq⟩ := h
  obtain ⟨hlog, rfl⟩ := Prod.mk.inj heq
  exact ⟨reader, hheld, hlog.symm, rfl⟩

theorem step_next (h : s.step (.next number) = some (log, s')) :
    ∃ reader, s.held number = some reader ∧ log = [(number, (s.bus.receive reader).1)] ∧
      s' = ⟨s.bus, s.subscriptions.set number (some (s.bus.receive reader).2)⟩ := by
  simp only [Session.step, Option.map_eq_some_iff] at h
  obtain ⟨reader, hheld, heq⟩ := h
  obtain ⟨hlog, rfl⟩ := Prod.mk.inj heq
  exact ⟨reader, hheld, hlog.symm, rfl⟩

theorem step_close (h : s.step .close = some (log, s')) :
    log = [] ∧ s' = ⟨s.bus.close, s.subscriptions⟩ := by
  simp only [Session.step, Option.ite_none_left_eq_some] at h
  obtain ⟨hlog, rfl⟩ := Prod.mk.inj (Option.some.inj h.2)
  exact ⟨hlog.symm, rfl⟩

/-- Only closing closes. -/
theorem closed_step (h : s.step call = some (log, s')) (hopen : call ≠ .close) :
    s'.bus.closed = s.bus.closed := by
  cases call with
  | advertise subject depth =>
    obtain ⟨_, _, ⟨_, rfl⟩ | ⟨_, rfl⟩⟩ := step_advertise h
    · rfl
    · rfl
  | publish subject payload headers =>
    obtain ⟨_, _, rfl⟩ := step_publish h
    rfl
  | subscribe subject =>
    obtain ⟨_, _, rfl⟩ := step_subscribe h
    rfl
  | unsubscribe number =>
    obtain ⟨_, _, _, rfl⟩ := step_unsubscribe h
    rfl
  | next number =>
    obtain ⟨_, _, _, rfl⟩ := step_next h
    rfl
  | close => exact absurd rfl hopen

/-! ## The channels of a session -/

/-- Every channel counts the subscriptions that read it and keeps the end of some history. -/
structure Sound (s : Session) : Prop where
  counted : ∀ subject, (s.bus.channel subject).readers = readers s.subscriptions subject
  keeps : ∀ subject, ∃ history, (s.bus.channel subject).Keeps history

theorem Sound.empty : Sound .empty where
  counted _ := by simp [Session.empty, Bus.empty, Bus.channel, Bus.unadvertised, Session.readers]
  keeps _ := ⟨[], by
    constructor <;> simp [Session.empty, Bus.empty, Bus.channel, Bus.unadvertised]⟩

theorem entry_of_held {reader : Subscription} (h : s.held number = some reader) :
    s.subscriptions[number]? = some (some reader) :=
  Option.join_eq_some_iff.mp h

/-- Another entry in the place of a subscription. -/
theorem readers_set {reader : Subscription} (h : s.held number = some reader)
    (entry : Option Subscription) (subject : String) :
    readers (s.subscriptions.set number entry) subject =
      readers s.subscriptions subject - (if reader.subject = subject then 1 else 0) +
        (if entry.any (·.subject == subject) then 1 else 0) := by
  obtain ⟨hlt, hentry⟩ := List.getElem?_eq_some_iff.mp (entry_of_held h)
  rw [readers, List.countP_set hlt, hentry]
  simp [readers]

theorem readers_append (subscriptions : List (Option Subscription)) (reader : Subscription)
    (subject : String) : readers (subscriptions ++ [some reader]) subject =
      readers subscriptions subject + (if reader.subject = subject then 1 else 0) := by
  simp [readers, List.countP_append, List.countP_singleton]

theorem readers_pos {reader : Subscription} (h : s.held number = some reader) :
    0 < readers s.subscriptions reader.subject := by
  rw [readers, List.countP_pos_iff]
  exact ⟨some reader, List.mem_of_getElem? (entry_of_held h), by simp⟩

/-- A channel is replaced, and the subscriptions along with it. -/
theorem Sound.replace (sound : Sound s) {c : Channel} {subscriptions : List (Option Subscription)}
    (hkeeps : ∃ history, c.Keeps history) (hsame : c.readers = readers subscriptions subject)
    (hothers : ∀ other, subject ≠ other →
      readers subscriptions other = readers s.subscriptions other) :
    Sound ⟨s.bus.setChannel subject c, subscriptions⟩ where
  counted other := by
    rw [Bus.channel_setChannel]
    split
    · next heq => rw [hsame, heq]
    · next hne => rw [hothers other hne, sound.counted other]
  keeps other := by
    rw [Bus.channel_setChannel]
    split
    · exact hkeeps
    · exact sound.keeps other

theorem Sound.step (sound : Sound s) (h : s.step call = some (log, s')) : Sound s' := by
  cases call with
  | advertise subject depth =>
    obtain ⟨_, _, ⟨_, rfl⟩ | ⟨hmissing, rfl⟩⟩ := step_advertise h
    · exact sound
    · have hnone := sound.counted subject
      rw [Bus.channel, hmissing] at hnone
      exact sound.replace ⟨[], by constructor <;> simp⟩ hnone fun _ _ => rfl
  | publish subject payload headers =>
    obtain ⟨_, _, rfl⟩ := step_publish h
    obtain ⟨history, keeps⟩ := sound.keeps subject
    have sound' := sound.replace (keeps.send_exists ⟨subject, payload, headers, s.bus.published⟩)
      ((Channel.readers_send _ _).trans (sound.counted subject)) fun _ _ => rfl
    exact ⟨sound'.counted, sound'.keeps⟩
  | subscribe subject =>
    obtain ⟨_, _, rfl⟩ := step_subscribe h
    obtain ⟨history, keeps⟩ := sound.keeps subject
    refine sound.replace ⟨history, keeps.setReaders _⟩ ?_ fun other hne => ?_
    · rw [readers_append, if_pos rfl, ← sound.counted subject]
      rfl
    · rw [readers_append, if_neg hne, Nat.add_zero]
  | unsubscribe number =>
    obtain ⟨reader, hheld, _, rfl⟩ := step_unsubscribe h
    obtain ⟨history, keeps⟩ := sound.keeps reader.subject
    refine sound.replace ⟨history, keeps.setReaders _⟩ ?_ fun other hne => ?_
    · simp [readers_set hheld, Channel.setReaders, sound.counted]
    · simp [readers_set hheld, hne]
  | next number =>
    obtain ⟨reader, hheld, _, rfl⟩ := step_next h
    refine ⟨fun other => ?_, sound.keeps⟩
    have hpos := readers_pos hheld
    rw [sound.counted, readers_set hheld]
    by_cases hsubject : reader.subject = other
    · subst hsubject
      simp [Bus.receive]
      omega
    · simp [Bus.receive, hsubject]
  | close =>
    obtain ⟨_, rfl⟩ := step_close h
    exact ⟨sound.counted, sound.keeps⟩

/-! ## Capacities -/

/-- The capacity of the channel that a call creates if its subject has none. -/
def capacityBy (subject : String) : BusCall → Option Nat
  | .advertise other depth =>
    if other = subject then some (max depth 1).nextPowerOfTwo else none
  | .publish other _ _ => if other = subject then some Bus.defaultDepth else none
  | .subscribe other => if other = subject then some Bus.defaultDepth else none
  | .unsubscribe _ | .next _ | .close => none

/-- The capacity by the first call that touches the subject. -/
def capacityOf (subject : String) (calls : List BusCall) : Nat :=
  (calls.findSome? (capacityBy subject)).getD Bus.defaultDepth

theorem capacityBy_pos {c : Nat} (h : capacityBy subject call = some c) : 0 < c := by
  cases call with
  | advertise other depth =>
    simp only [capacityBy, Option.ite_none_right_eq_some] at h
    obtain ⟨_, ⟨⟩⟩ := h
    exact Nat.pos_of_isPowerOfTwo (Nat.isPowerOfTwo_nextPowerOfTwo _)
  | publish other payload headers =>
    simp only [capacityBy, Option.ite_none_right_eq_some] at h
    obtain ⟨_, ⟨⟩⟩ := h
    decide
  | subscribe other =>
    simp only [capacityBy, Option.ite_none_right_eq_some] at h
    obtain ⟨_, ⟨⟩⟩ := h
    decide
  | unsubscribe other => cases h
  | next other => cases h
  | close => cases h

/-- The capacity of a channel that was created. -/
def capacity? (s : Session) (subject : String) : Option Nat :=
  s.bus.channels[subject]?.map (·.capacity)

theorem isSome_capacity? (s : Session) (subject : String) :
    (s.capacity? subject).isSome = s.bus.channels[subject]?.isSome :=
  Option.isSome_map

theorem capacity?_replace (c : Channel) (other : String)
    (subscriptions : List (Option Subscription)) :
    capacity? ⟨s.bus.setChannel subject c, subscriptions⟩ other =
      if subject = other then some c.capacity else s.capacity? other := by
  rw [capacity?, Bus.channels_setChannel]
  split <;> rfl

theorem channel_capacity (s : Session) (subject : String) :
    (s.bus.channel subject).capacity = (s.capacity? subject).getD Bus.defaultDepth := by
  rw [Bus.channel, capacity?]
  cases s.bus.channels[subject]? <;> rfl

theorem Sound.capacity?_isSome (sound : Sound s) {reader : Subscription}
    (h : s.held number = some reader) : ∃ c, s.capacity? reader.subject = some c := by
  have hpos := readers_pos h
  rw [← sound.counted, Bus.channel] at hpos
  rw [capacity?]
  cases hchannel : s.bus.channels[reader.subject]? with
  | none =>
    rw [hchannel] at hpos
    cases hpos
  | some c => exact ⟨c.capacity, rfl⟩

/-- A channel that is replaced by one with its own capacity. -/
theorem capacity?_touch (c : Channel) (hcapacity : c.capacity = (s.bus.channel subject).capacity)
    (other : String) (subscriptions : List (Option Subscription)) :
    capacity? ⟨s.bus.setChannel subject c, subscriptions⟩ other =
      (s.capacity? other).or (if subject = other then some Bus.defaultDepth else none) := by
  rw [capacity?_replace, hcapacity, channel_capacity]
  split
  · next heq =>
    subst heq
    cases s.capacity? subject <;> rfl
  · exact Option.or_none.symm

/-- A call gives a capacity to channels that have none, and changes no other. -/
theorem Sound.capacity?_step (sound : Sound s) (h : s.step call = some (log, s'))
    (subject : String) :
    s'.capacity? subject = (s.capacity? subject).or (capacityBy subject call) := by
  cases call with
  | advertise other depth =>
    rw [capacityBy]
    obtain ⟨_, _, ⟨hthere, rfl⟩ | ⟨hmissing, rfl⟩⟩ := step_advertise h
    · split
      · next heq =>
        subst heq
        rw [Option.or_of_isSome (by simpa [capacity?] using hthere)]
      · exact Option.or_none.symm
    · rw [capacity?_replace]
      split
      · next heq =>
        subst heq
        simp [capacity?, hmissing]
      · exact Option.or_none.symm
  | publish other payload headers =>
    obtain ⟨_, _, rfl⟩ := step_publish h
    exact capacity?_touch _ (Channel.capacity_send _ _) subject s.subscriptions
  | subscribe other =>
    obtain ⟨_, _, rfl⟩ := step_subscribe h
    exact capacity?_touch
      ((s.bus.channel other).setReaders ((s.bus.channel other).readers + 1)) rfl subject _
  | unsubscribe number =>
    obtain ⟨reader, hheld, _, rfl⟩ := step_unsubscribe h
    obtain ⟨c, hc⟩ := sound.capacity?_isSome hheld
    have htouch := capacity?_touch ((s.bus.channel reader.subject).setReaders
      ((s.bus.channel reader.subject).readers - 1)) rfl subject (s.subscriptions.set number none)
    rw [htouch, capacityBy, Option.or_none]
    split
    · next heq => rw [← heq, hc, Option.some_or]
    · exact Option.or_none
  | next number =>
    obtain ⟨reader, hheld, _, rfl⟩ := step_next h
    exact Option.or_none.symm
  | close =>
    obtain ⟨_, rfl⟩ := step_close h
    exact Option.or_none.symm

end Session

end PacedImages
