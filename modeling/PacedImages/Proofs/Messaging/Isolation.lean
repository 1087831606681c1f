import PacedImages.Proofs.Messaging.Delivery

/-!
# Isolation of subscriptions

What a subscription finds is a matter of its subject and of its own reads. All that is called on
other subjects can be left out, and so can what other subscriptions to the subject do, but for the
one that creates the channel: the run without it can still be made, and the subscription finds the
same in it, save for the numbers that messages bear.
-/

namespace PacedImages

/-! ## Without numbers -/

def Message.unnumbered (m : Message) : Message := { m with sequence := 0 }

def Reception.unnumbered : Reception → Reception
  | .message m => .message m.unnumbered
  | .nothing => .nothing
  | .fault f => .fault f

def MailboxEvent.unnumbered : MailboxEvent → MailboxEvent
  | .posted m => .posted m.unnumbered
  | .closed => .closed
  | .read => .read

namespace Mailbox

def unnumbered (box : Mailbox) : Mailbox := { box with unread := box.unread.map .unnumbered }

theorem read_unnumbered (capacity : Nat) (box : Mailbox) :
    box.unnumbered.read capacity =
      ((box.read capacity).1.unnumbered, (box.read capacity).2.unnumbered) := by
  obtain ⟨unread, closed⟩ := box
  simp only [read, unnumbered, List.length_map]
  by_cases hexcess : 0 < unread.length - capacity
  · simp only [if_pos hexcess, List.map_drop]
    rfl
  · simp only [if_neg hexcess]
    cases unread with
    | nil => cases closed <;> rfl
    | cons m rest => rfl

/-- Reads do not look at the numbers of messages. -/
theorem replay_unnumbered (capacity : Nat) (events : List MailboxEvent) (box : Mailbox) :
    box.unnumbered.replay capacity (events.map .unnumbered) =
      ((box.replay capacity events).1.map .unnumbered,
        (box.replay capacity events).2.unnumbered) := by
  induction events generalizing box with
  | nil => rfl
  | cons event rest ih =>
    cases event with
    | posted m =>
      have hposted := ih { box with unread := box.unread ++ [m] }
      rw [unnumbered, List.map_append] at hposted
      exact hposted
    | closed => exact ih { box with closed := true }
    | read =>
      have hread := ih (box.read capacity).2
      simp only [List.map_cons, MailboxEvent.unnumbered, replay, read_unnumbered, hread]

end Mailbox

/-! ## What is left of calls -/

namespace BusCall

/-- The number that a subscription has among those that are left. -/
def renumber? (own : Option (Nat × Nat)) (number : Nat) : Option Nat :=
  own.bind fun (old, new) => if number = old then some new else none

/-- What is left of a call where only one subscription to a subject counts: the subscription of
number `old` has the number `new` then if `own` is `some (old, new)`, and it is still to be made if
that is `none`. Others subscribe only if the subject has no channel there yet. -/
def isolated? (subject : String) (own : Option (Nat × Nat)) (there : Bool) :
    BusCall → Option BusCall
  | .advertise other depth => if other = subject then some (.advertise other depth) else none
  | .publish other payload headers =>
    if other = subject then some (.publish other payload headers) else none
  | .subscribe other => if other = subject ∧ there = false then some (.subscribe other) else none
  | .unsubscribe number => (renumber? own number).map .unsubscribe
  | .next number => (renumber? own number).map .next
  | .close => some .close

/-- What is left of calls, one after the other. -/
def isolate (subject : String) (own : Option (Nat × Nat)) : Bool → List BusCall → List BusCall
  | _, [] => []
  | there, call :: rest =>
    (call.isolated? subject own there).toList ++
      isolate subject own (there || (Session.capacityBy subject call).isSome) rest

/-- Whether a call is one on a subscription. -/
def isOnSubscription : BusCall → Bool
  | .next _ | .unsubscribe _ => true
  | .advertise .. | .publish .. | .subscribe _ | .close => false

/-- Whether a call gives up the subscription. -/
def givesUp (number : Nat) : BusCall → Bool
  | .unsubscribe other => other == number
  | _ => false

variable {subject : String} {own : Option (Nat × Nat)} {there : Bool} {call call' : BusCall}
  {old new : Nat}

theorem renumber?_eq_some {number : Nat} :
    renumber? own number = some new ↔ own = some (number, new) := by
  cases own with
  | none => simp [renumber?]
  | some o =>
    obtain ⟨old, new'⟩ := o
    by_cases hnumber : number = old
    · simp [renumber?, hnumber]
    · simp [renumber?, hnumber, Ne.symm hnumber]

/-- What is left out does not close the bus, create the channel or give up the subscription. -/
theorem isolated?_eq_none (hleft : call.isolated? subject own there = none) :
    call ≠ .close ∧ (there = false → Session.capacityBy subject call = none) ∧
      ∀ old new, own = some (old, new) → call.givesUp old = false := by
  cases call with
  | advertise other depth =>
    have hne : ¬ other = subject := by simpa [isolated?] using hleft
    exact ⟨nofun, fun _ => if_neg hne, fun _ _ _ => rfl⟩
  | publish other payload headers =>
    have hne : ¬ other = subject := by simpa [isolated?] using hleft
    exact ⟨nofun, fun _ => if_neg hne, fun _ _ _ => rfl⟩
  | subscribe other =>
    refine ⟨nofun, fun hthere => ?_, fun _ _ _ => rfl⟩
    have hne : ¬ other = subject := by simpa [isolated?, hthere] using hleft
    exact if_neg hne
  | unsubscribe number =>
    refine ⟨nofun, fun _ => rfl, fun old new hown => ?_⟩
    have hnone : renumber? own number = none := Option.map_eq_none_iff.mp hleft
    by_cases hnumber : number = old
    · rw [← hnumber, ← renumber?_eq_some, hnone] at hown
      cases hown
    · exact beq_eq_false_iff_ne.mpr hnumber
  | next number => exact ⟨nofun, fun _ => rfl, fun _ _ _ => rfl⟩
  | close => cases hleft

/-- What is left of a call is the call itself, or one on the subscription under its new number. -/
theorem isolated?_cases (hleft : call.isolated? subject own there = some call') :
    (call' = call ∧ call.isOnSubscription = false) ∨
      ∃ old new, own = some (old, new) ∧
        (call = .next old ∧ call' = .next new ∨
          call = .unsubscribe old ∧ call' = .unsubscribe new) := by
  cases call with
  | advertise other depth =>
    exact Or.inl ⟨(Option.some.inj (Option.ite_none_right_eq_some.mp hleft).2).symm, rfl⟩
  | publish other payload headers =>
    exact Or.inl ⟨(Option.some.inj (Option.ite_none_right_eq_some.mp hleft).2).symm, rfl⟩
  | subscribe other =>
    exact Or.inl ⟨(Option.some.inj (Option.ite_none_right_eq_some.mp hleft).2).symm, rfl⟩
  | unsubscribe number =>
    obtain ⟨new, hnew, rfl⟩ := Option.map_eq_some_iff.mp hleft
    exact Or.inr ⟨number, new, renumber?_eq_some.mp hnew, Or.inr ⟨rfl, rfl⟩⟩
  | next number =>
    obtain ⟨new, hnew, rfl⟩ := Option.map_eq_some_iff.mp hleft
    exact Or.inr ⟨number, new, renumber?_eq_some.mp hnew, Or.inl ⟨rfl, rfl⟩⟩
  | close => exact Or.inl ⟨(Option.some.inj hleft).symm, rfl⟩

theorem givesUp_of_isOnSubscription (h : call.isOnSubscription = false) (number : Nat) :
    call.givesUp number = false := by
  cases call <;> first | rfl | cases h

/-- What is left of a call does the same to the bus, the channel and the subscription. -/
theorem isolated?_eq_some (hleft : call.isolated? subject own there = some call') :
    (call' = .close ↔ call = .close) ∧
      Session.capacityBy subject call' = Session.capacityBy subject call ∧
      ∀ old new, own = some (old, new) → call'.givesUp new = call.givesUp old := by
  rcases isolated?_cases hleft with ⟨rfl, hshared⟩ | ⟨old, new, rfl, ⟨rfl, rfl⟩ | ⟨rfl, rfl⟩⟩
  · refine ⟨Iff.rfl, rfl, fun old new _ => ?_⟩
    rw [givesUp_of_isOnSubscription hshared, givesUp_of_isOnSubscription hshared]
  · exact ⟨⟨nofun, nofun⟩, rfl, fun _ _ _ => rfl⟩
  · refine ⟨⟨nofun, nofun⟩, rfl, ?_⟩
    rintro _ _ ⟨⟩
    simp [givesUp]

/-- What is left out means nothing to the subscription. -/
theorem events_of_isolated?_none
    (hleft : call.isolated? subject (some (old, new)) there = none) (published : Nat) :
    call.events subject old published = [] := by
  cases call with
  | publish other payload headers =>
    have hne : ¬ other = subject := by simpa [isolated?] using hleft
    exact if_neg hne
  | next number =>
    have hne : ¬ number = old := by
      rintro rfl
      simp [isolated?, renumber?] at hleft
    exact if_neg hne
  | close => cases hleft
  | advertise other depth => rfl
  | subscribe other => rfl
  | unsubscribe number => rfl

/-- What is left of a call means the same to the subscription, however many messages were published
before. -/
theorem events_of_isolated?_some
    (hleft : call.isolated? subject (some (old, new)) there = some call') (published left : Nat) :
    (call'.events subject new left).map MailboxEvent.unnumbered =
      (call.events subject old published).map MailboxEvent.unnumbered := by
  rcases isolated?_cases hleft with ⟨rfl, hshared⟩ | ⟨_, _, ⟨⟩, ⟨rfl, rfl⟩ | ⟨rfl, rfl⟩⟩
  · cases call' with
    | publish other payload headers =>
      by_cases hsubject : other = subject
      · simp [events, hsubject, MailboxEvent.unnumbered, Message.unnumbered]
      · simp [events, hsubject]
    | next number => cases hshared
    | unsubscribe number => cases hshared
    | advertise other depth => rfl
    | subscribe other => rfl
    | close => rfl
  · simp [events]
  · rfl

theorem allEvents_isolate (calls : List BusCall) (there : Bool) (published left : Nat) :
    (allEvents subject new left (isolate subject (some (old, new)) there calls)).map
        MailboxEvent.unnumbered =
      (allEvents subject old published calls).map MailboxEvent.unnumbered := by
  induction calls generalizing there published left with
  | nil => rfl
  | cons call calls ih =>
    rw [isolate, allEvents, List.map_append]
    cases hleft : call.isolated? subject (some (old, new)) there with
    | none =>
      rw [events_of_isolated?_none hleft]
      exact ih _ _ _
    | some call' =>
      rw [Option.toList_some, List.singleton_append, allEvents, List.map_append,
        events_of_isolated?_some hleft published left, ih]

end BusCall

namespace Session

variable {s s' t t' : Session} {call call' : BusCall} {calls : List BusCall}
  {log log' : List (Nat × Reception)} {subject : String} {number : Nat}
  {own : Option (Nat × Nat)}

/-- A subscription stays until it is given up. -/
theorem isSome_held_step (h : s.step call = some (log, s'))
    (hmade : number < s.subscriptions.length) :
    (s'.held number).isSome = ((s.held number).isSome && !call.givesUp number) := by
  cases call with
  | advertise other depth =>
    obtain ⟨_, _, ⟨_, rfl⟩ | ⟨_, rfl⟩⟩ := step_advertise h
    · exact (Bool.and_true _).symm
    · exact (Bool.and_true _).symm
  | publish other payload headers =>
    obtain ⟨_, _, rfl⟩ := step_publish h
    exact (Bool.and_true _).symm
  | subscribe other =>
    obtain ⟨_, _, rfl⟩ := step_subscribe h
    rw [held, List.getElem?_append_left hmade]
    exact (Bool.and_true _).symm
  | unsubscribe other =>
    obtain ⟨_, _, _, rfl⟩ := step_unsubscribe h
    by_cases hnumber : other = number
    · subst hnumber
      simp [held, List.getElem?_set_self hmade, BusCall.givesUp]
    · simp [held, List.getElem?_set_ne hnumber, BusCall.givesUp, hnumber]
  | next other =>
    obtain ⟨reader, hheld, _, rfl⟩ := step_next h
    by_cases hnumber : other = number
    · subst hnumber
      rw [hheld]
      simp [held, List.getElem?_set_self hmade, BusCall.givesUp]
    · simp [held, List.getElem?_set_ne hnumber, BusCall.givesUp]
  | close =>
    obtain ⟨_, rfl⟩ := step_close h
    exact (Bool.and_true _).symm

/-- The sessions of a run and of what is left of it: they agree on whether the bus is closed, on the
channel of the subject as far as calls depend on it, and on whether the subscription is held. -/
structure Alike (subject : String) (own : Option (Nat × Nat)) (s t : Session) : Prop where
  sound : Sound s
  sound' : Sound t
  closed : t.bus.closed = s.bus.closed
  capacity : t.capacity? subject = s.capacity? subject
  held : ∀ old new, own = some (old, new) → old < s.subscriptions.length ∧
    new < t.subscriptions.length ∧ (t.held new).isSome = (s.held old).isSome

/-- Who reads in the full run can read in what is left of it. -/
theorem Alike.exists_held (alike : Alike subject own s t) {new : Nat}
    (hnew : BusCall.renumber? own number = some new) {reader : Subscription}
    (hheld : s.held number = some reader) : ∃ reader', t.held new = some reader' := by
  obtain ⟨_, _, hsame⟩ := alike.held number new (BusCall.renumber?_eq_some.mp hnew)
  rw [hheld] at hsame
  exact Option.isSome_iff_exists.mp hsame

/-- What is left of a call can be made. -/
theorem Alike.exists_step (alike : Alike subject own s t)
    (hleft : call.isolated? subject own (s.capacity? subject).isSome = some call')
    (h : s.step call = some (log, s')) : ∃ log' t', t.step call' = some (log', t') := by
  cases call with
  | advertise other depth =>
    simp only [BusCall.isolated?, Option.ite_none_right_eq_some, Option.some.injEq] at hleft
    obtain ⟨rfl, rfl⟩ := hleft
    have hbus : (s.bus.advertise? other depth).isSome = true := by
      simp only [Session.step, Option.ite_none_left_eq_some, Option.map_eq_some_iff] at h
      obtain ⟨_, bus, hbus, _⟩ := h
      rw [hbus]
      rfl
    have hopen : t.bus.closed = false := alike.closed.trans (step_advertise h).1
    rw [Bus.isSome_advertise?, ← isSome_capacity?, ← alike.capacity, isSome_capacity?,
      ← Bus.isSome_advertise?] at hbus
    obtain ⟨bus, hbus⟩ := Option.isSome_iff_exists.mp hbus
    exact ⟨[], { t with bus }, by simp [step, hopen, hbus]⟩
  | publish other payload headers =>
    simp only [BusCall.isolated?, Option.ite_none_right_eq_some, Option.some.injEq] at hleft
    obtain ⟨rfl, rfl⟩ := hleft
    have hopen : t.bus.closed = false := alike.closed.trans (step_publish h).1
    exact ⟨_, _, if_neg (by simp [hopen])⟩
  | subscribe other =>
    simp only [BusCall.isolated?, Option.ite_none_right_eq_some, Option.some.injEq] at hleft
    obtain ⟨_, rfl⟩ := hleft
    have hopen : t.bus.closed = false := alike.closed.trans (step_subscribe h).1
    exact ⟨_, _, if_neg (by simp [hopen])⟩
  | unsubscribe number =>
    obtain ⟨new, hnew, rfl⟩ := Option.map_eq_some_iff.mp hleft
    obtain ⟨reader, hheld, _⟩ := step_unsubscribe h
    obtain ⟨reader', hheld'⟩ := alike.exists_held hnew hheld
    exact ⟨_, _, by rw [step, hheld', Option.map_some]⟩
  | next number =>
    obtain ⟨new, hnew, rfl⟩ := Option.map_eq_some_iff.mp hleft
    obtain ⟨reader, hheld, _⟩ := step_next h
    obtain ⟨reader', hheld'⟩ := alike.exists_held hnew hheld
    exact ⟨_, _, by rw [step, hheld', Option.map_some]⟩
  | close =>
    obtain rfl := Option.some.inj hleft
    simp only [Session.step, Option.ite_none_left_eq_some] at h
    exact ⟨_, _, if_neg (alike.closed ▸ h.1)⟩

theorem length_le_step (h : s.step call = some (log, s')) :
    s.subscriptions.length ≤ s'.subscriptions.length :=
  (length_step h).1 ▸ Nat.le_add_right _ _

/-- A call of which nothing is left. -/
theorem Alike.skip (alike : Alike subject own s t)
    (hleft : call.isolated? subject own (s.capacity? subject).isSome = none)
    (h : s.step call = some (log, s')) : Alike subject own s' t where
  sound := alike.sound.step h
  sound' := alike.sound'
  closed := by
    obtain ⟨hopen, _⟩ := BusCall.isolated?_eq_none hleft
    exact alike.closed.trans (closed_step h hopen).symm
  capacity := by
    obtain ⟨_, hnone, _⟩ := BusCall.isolated?_eq_none hleft
    rw [alike.sound.capacity?_step h, alike.capacity]
    -- Of the calls that create a channel only those are left out that find it there.
    cases hthere : s.capacity? subject with
    | none =>
      rw [hthere] at hnone
      rw [hnone rfl]
      rfl
    | some c => rfl
  held old new hown := by
    obtain ⟨hold, hnew, hsame⟩ := alike.held old new hown
    obtain ⟨_, _, hkept⟩ := BusCall.isolated?_eq_none hleft
    refine ⟨Nat.lt_of_lt_of_le hold (length_le_step h), hnew, ?_⟩
    rw [isSome_held_step h hold, hkept old new hown, hsame]
    exact (Bool.and_true _).symm

/-- A call and what is left of it. -/
theorem Alike.step (alike : Alike subject own s t)
    (hleft : call.isolated? subject own (s.capacity? subject).isSome = some call')
    (h : s.step call = some (log, s')) (h' : t.step call' = some (log', t')) :
    Alike subject own s' t' where
  sound := alike.sound.step h
  sound' := alike.sound'.step h'
  closed := by
    obtain ⟨hclose, _⟩ := BusCall.isolated?_eq_some hleft
    by_cases hcall : call = .close
    · obtain rfl := hclose.mpr hcall
      subst hcall
      obtain ⟨_, rfl⟩ := step_close h
      obtain ⟨_, rfl⟩ := step_close h'
      rfl
    · rw [closed_step h hcall, closed_step h' fun hcall' => hcall (hclose.mp hcall'), alike.closed]
  capacity := by
    obtain ⟨_, hsame, _⟩ := BusCall.isolated?_eq_some hleft
    rw [alike.sound.capacity?_step h, alike.sound'.capacity?_step h', alike.capacity, hsame]
  held old new hown := by
    obtain ⟨hold, hnew, hsame⟩ := alike.held old new hown
    obtain ⟨_, _, hgiven⟩ := BusCall.isolated?_eq_some hleft
    refine ⟨Nat.lt_of_lt_of_le hold (length_le_step h),
      Nat.lt_of_lt_of_le hnew (length_le_step h'), ?_⟩
    rw [isSome_held_step h hold, isSome_held_step h' hnew, hgiven old new hown, hsame]

/-- What is left of a run can be made. -/
theorem Alike.exists_run (alike : Alike subject own s t) (h : s.run calls = some (log, s')) :
    ∃ log' t', t.run (BusCall.isolate subject own (s.capacity? subject).isSome calls) =
        some (log', t') ∧ Alike subject own s' t' := by
  induction calls generalizing s t log with
  | nil =>
    obtain ⟨rfl, rfl⟩ := Prod.mk.inj (Option.some.inj h)
    exact ⟨[], t, rfl, alike⟩
  | cons call calls ih =>
    obtain ⟨log₁, s₁, log₂, hstep, hrun, rfl⟩ := run_cons h
    -- Both runs go by the channel of the full one when they tell which calls are left.
    have hthere : (s₁.capacity? subject).isSome =
        ((s.capacity? subject).isSome || (capacityBy subject call).isSome) := by
      rw [alike.sound.capacity?_step hstep, Option.isSome_or]
    rw [BusCall.isolate, ← hthere]
    cases hleft : call.isolated? subject own (s.capacity? subject).isSome with
    | none => exact ih (alike.skip hleft hstep) hrun
    | some call' =>
      obtain ⟨log₁', t₁, hstep'⟩ := alike.exists_step hleft hstep
      obtain ⟨log₂', t', hrun', alike'⟩ := ih (alike.step hleft hstep hstep') hrun
      exact ⟨log₁' ++ log₂', t', run_join (run_single hstep') hrun', alike'⟩

theorem Alike.empty (subject : String) : Alike subject none .empty .empty where
  sound := Sound.empty
  sound' := Sound.empty
  closed := rfl
  capacity := rfl
  held := nofun

/-- The subscription is made, in both runs. -/
theorem Alike.subscribe (alike : Alike subject none s t)
    (h : s.step (.subscribe subject) = some (log, s'))
    (h' : t.step (.subscribe subject) = some (log', t')) :
    Alike subject (some (s.subscriptions.length, t.subscriptions.length)) s' t' where
  sound := alike.sound.step h
  sound' := alike.sound'.step h'
  closed := by rw [closed_step h nofun, closed_step h' nofun, alike.closed]
  capacity := by
    rw [alike.sound.capacity?_step h, alike.sound'.capacity?_step h', alike.capacity]
  held old new hown := by
    obtain ⟨rfl, rfl⟩ := Prod.mk.inj (Option.some.inj hown)
    obtain ⟨_, _, rfl⟩ := step_subscribe h
    obtain ⟨_, _, rfl⟩ := step_subscribe h'
    simp [Session.held]

/-- What a subscription finds, from the mailbox that it stands for. -/
theorem findings_subscription {before after : List BusCall}
    (h : run .empty (before ++ .subscribe subject :: after) = some (log, s)) :
    ∃ capacity, s.capacity? subject = some capacity ∧
      findings (before.countP BusCall.isSubscribe) log =
        (Mailbox.fresh.replay capacity (BusCall.allEvents subject
          (before.countP BusCall.isSubscribe) (before.countP BusCall.isPublish) after)).1 := by
  obtain ⟨log₁, s₁, log₂, hbefore, hrest, rfl⟩ := run_append h
  obtain ⟨log₃, s₂, log₄, hsubscribe, hafter, rfl⟩ := run_cons hrest
  have hnone : Session.empty.bus.published = .ofNat 0 := rfl
  obtain ⟨_, _, hlength, hbound, _⟩ := run_prepares Sound.empty hnone hbefore
  have hnumber : s₁.subscriptions.length = before.countP BusCall.isSubscribe :=
    hlength.trans (Nat.zero_add _)
  obtain ⟨hfound, _, hcapacity⟩ := follow_subscription hbefore hsubscribe hafter
  rw [hnumber] at hbound hfound
  refine ⟨_, hcapacity, ?_⟩
  rw [findings_append, findings_of_lt hbound, List.nil_append]
  exact hfound

/-- A subscription finds the same in a run and in what is left of the run when everything is left
out that is called on other subjects and, on its own subject, what the other subscriptions read and
give up and those of them that find the channel there. -/
theorem run_isolates {before after : List BusCall}
    (h : run .empty (before ++ .subscribe subject :: after) = some (log, s)) :
    let number := before.countP BusCall.isSubscribe
    let before' := BusCall.isolate subject none false before
    let number' := before'.countP BusCall.isSubscribe
    let after' := BusCall.isolate subject (some (number, number')) true after
    ∃ log' s', run .empty (before' ++ .subscribe subject :: after') = some (log', s') ∧
      (findings number' log').map Reception.unnumbered =
        (findings number log).map Reception.unnumbered := by
  intro number before' number' after'
  obtain ⟨log₁, s₁, log₂, hbefore, hrest, rfl⟩ := run_append h
  obtain ⟨log₃, s₂, log₄, hsubscribe, hafter, rfl⟩ := run_cons hrest
  obtain ⟨log₁', t₁, hbefore', alike₁⟩ := (Alike.empty subject).exists_run hbefore
  have hopen : t₁.bus.closed = false := alike₁.closed.trans (step_subscribe hsubscribe).1
  obtain ⟨log₃', t₂, hsubscribe'⟩ : ∃ log₃' t₂, t₁.step (.subscribe subject) = some (log₃', t₂) :=
    ⟨_, _, if_neg (by simp [hopen])⟩
  have alike₂ := alike₁.subscribe hsubscribe hsubscribe'
  have hnone : Session.empty.bus.published = .ofNat 0 := rfl
  have hold : s₁.subscriptions.length = number :=
    (run_prepares Sound.empty hnone hbefore).2.2.1.trans (Nat.zero_add _)
  have hnew : t₁.subscriptions.length = number' :=
    (run_prepares Sound.empty hnone hbefore').2.2.1.trans (Nat.zero_add _)
  have hthere : (s₂.capacity? subject).isSome = true := by
    rw [alike₁.sound.capacity?_step hsubscribe, Option.isSome_or, capacityBy, if_pos rfl]
    exact Bool.or_true _
  rw [hold, hnew] at alike₂
  obtain ⟨log₄', s', hafter', alike⟩ := alike₂.exists_run hafter
  rw [hthere] at hafter'
  have hleft : run .empty (before' ++ .subscribe subject :: after') =
      some (log₁' ++ (log₃' ++ log₄'), s') :=
    run_join hbefore' (run_join (run_single hsubscribe') hafter')
  refine ⟨_, s', hleft, ?_⟩
  obtain ⟨capacity, hcapacity, hfound⟩ := findings_subscription h
  obtain ⟨capacity', hcapacity', hfound'⟩ := findings_subscription hleft
  obtain rfl : capacity' = capacity := by
    rw [alike.capacity, hcapacity] at hcapacity'
    exact (Option.some.inj hcapacity').symm
  let events := BusCall.allEvents subject number (before.countP BusCall.isPublish) after
  let events' := BusCall.allEvents subject number' (before'.countP BusCall.isPublish) after'
  have hevents : events'.map MailboxEvent.unnumbered = events.map MailboxEvent.unnumbered :=
    BusCall.allEvents_isolate after true _ _
  have hmap (events : List MailboxEvent) :
      (Mailbox.fresh.replay capacity' events).1.map Reception.unnumbered =
        (Mailbox.fresh.unnumbered.replay capacity' (events.map .unnumbered)).1 := by
    rw [Mailbox.replay_unnumbered]
  calc
    (findings number' _).map Reception.unnumbered
      = (Mailbox.fresh.replay capacity' events').1.map Reception.unnumbered := by rw [hfound']
    _ = (Mailbox.fresh.replay capacity' events).1.map Reception.unnumbered := by
        rw [hmap, hmap, hevents]
    _ = (findings number _).map Reception.unnumbered := by rw [hfound]

/-- Between other readers and another subject, one of three messages is lost, and the others outlive
the bus. -/
theorem run_isolates_overrun :
    let before : List BusCall :=
      [.advertise "camera" 2, .publish "sound" ⟨#[1]⟩ ∅, .subscribe "camera", .subscribe "sound"]
    let after : List BusCall :=
      [.publish "camera" ⟨#[2]⟩ ∅, .next 0, .publish "sound" ⟨#[3]⟩ ∅, .publish "camera" ⟨#[4]⟩ ∅,
        .publish "camera" ⟨#[5]⟩ ∅, .next 2, .next 1, .unsubscribe 0, .next 2, .subscribe "camera",
        .close, .next 2, .next 3, .next 2]
    let left : List BusCall :=
      [.advertise "camera" 2, .subscribe "camera", .publish "camera" ⟨#[2]⟩ ∅,
        .publish "camera" ⟨#[4]⟩ ∅, .publish "camera" ⟨#[5]⟩ ∅, .next 0, .next 0, .close, .next 0,
        .next 0]
    ∃ log s log' s', run .empty (before ++ .subscribe "camera" :: after) = some (log, s) ∧
      run .empty left = some (log', s') ∧
      (findings 0 log').map Reception.unnumbered = (findings 2 log).map Reception.unnumbered ∧
      (findings 2 log).map Reception.unnumbered = [.fault (.lagged 1),
        .message ⟨"camera", ⟨#[4]⟩, ∅, 0⟩, .message ⟨"camera", ⟨#[5]⟩, ∅, 0⟩, .fault .closed] := by
  intro before after left
  have hpossible : (run .empty (before ++ .subscribe "camera" :: after)).isSome = true := by
    decide +kernel
  obtain ⟨⟨log, s⟩, hrun⟩ := Option.isSome_iff_exists.mp hpossible
  obtain ⟨log', s', hleft, hsame⟩ := run_isolates hrun
  have hfound : (run .empty left).map (fun r => (findings 0 r.1).map Reception.unnumbered) =
      some [.fault (.lagged 1), .message ⟨"camera", ⟨#[4]⟩, ∅, 0⟩,
        .message ⟨"camera", ⟨#[5]⟩, ∅, 0⟩, .fault .closed] := by
    with_unfolding_all rfl
  rw [show run .empty left = some (log', s') from hleft] at hfound
  exact ⟨log, s, log', s', hrun, hleft, hsame, hsame.symm.trans (Option.some.inj hfound)⟩

end Session

end PacedImages
