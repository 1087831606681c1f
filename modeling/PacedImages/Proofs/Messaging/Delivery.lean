import PacedImages.Proofs.Messaging.Session

/-!
# What a subscription delivers

Whatever is called on a bus and on all its subscriptions, each subscription is a mailbox: into it
come the messages published on its subject after it was made, and its reads find what reads of that
mailbox find. Main statement: a whole run, with the subscription made anywhere in it.
-/

namespace PacedImages

namespace BusCall

def isPublish : BusCall → Bool
  | .publish .. => true
  | _ => false

def isSubscribe : BusCall → Bool
  | .subscribe _ => true
  | _ => false

/-- What a call means to a subscription, so many messages having been published before. -/
def events (subject : String) (number published : Nat) : BusCall → List MailboxEvent
  | .publish other payload headers =>
    if other = subject then [.posted ⟨subject, payload, headers, .ofNat published⟩] else []
  | .next other => if other = number then [.read] else []
  | .close => [.closed]
  | .advertise .. | .subscribe _ | .unsubscribe _ => []

/-- What calls mean to a subscription, one after the other. -/
def allEvents (subject : String) (number : Nat) : Nat → List BusCall → List MailboxEvent
  | _, [] => []
  | published, call :: rest =>
    call.events subject number published ++
      allEvents subject number (published + if call.isPublish then 1 else 0) rest

/-- What a call publishes on a subject. -/
def sentOn? (subject : String) : BusCall → Option (ByteArray × Headers)
  | .publish other payload headers => if other = subject then some (payload, headers) else none
  | .advertise .. | .subscribe _ | .unsubscribe _ | .next _ | .close => none

/-- What comes into a mailbox is what is published on its subject. -/
theorem postings_allEvents (subject : String) (number : Nat) (calls : List BusCall)
    (published : Nat) :
    (Mailbox.postings (allEvents subject number published calls)).map
      (fun m => (m.payload, m.headers)) = calls.filterMap (sentOn? subject) := by
  induction calls generalizing published with
  | nil => rfl
  | cons call rest ih =>
    rw [allEvents, Mailbox.postings_append, List.map_append, ih, List.filterMap_cons]
    cases call with
    | publish other payload headers =>
      by_cases hsubject : other = subject
      · simp [events, sentOn?, hsubject, Mailbox.postings]
      · simp [events, sentOn?, hsubject, Mailbox.postings]
    | next other =>
      by_cases hnumber : other = number
      · simp [events, sentOn?, hnumber, Mailbox.postings]
      · simp [events, sentOn?, hnumber, Mailbox.postings]
    | advertise other depth => rfl
    | subscribe other => rfl
    | unsubscribe other => rfl
    | close => rfl

end BusCall

namespace Session

/-- What one subscription found. -/
def findings (number : Nat) (log : List (Nat × Reception)) : List Reception :=
  (log.filter (·.1 == number)).map (·.2)

variable {s s' : Session} {call : BusCall} {calls : List BusCall} {log : List (Nat × Reception)}
  {subject : String} {number published c : Nat} {box : Mailbox}

/-- The subscription reads what the mailbox holds, unless it was given up. -/
structure Follows (s : Session) (number : Nat) (subject : String) (box : Mailbox) : Prop where
  closed : box.closed = s.bus.closed
  place : s.subscriptions[number]? = some none ∨ ∃ history position,
    s.subscriptions[number]? = some (some ⟨subject, position⟩) ∧ position ≤ history.length ∧
      (s.bus.channel subject).Keeps history ∧ box.unread = history.drop position

/-- Nothing changes for the subscription. -/
theorem Follows.frame (follows : Follows s number subject box)
    (hclosed : s'.bus.closed = s.bus.closed)
    (hentry : s'.subscriptions[number]? = s.subscriptions[number]?)
    (hkeeps : ∀ history, (s.bus.channel subject).Keeps history →
      (s'.bus.channel subject).Keeps history) : Follows s' number subject box where
  closed := follows.closed.trans hclosed.symm
  place := by
    rw [hentry]
    rcases follows.place with hgiven | ⟨history, position, hheld, hle, keeps, hunread⟩
    · exact Or.inl hgiven
    · exact Or.inr ⟨history, position, hheld, hle, hkeeps history keeps, hunread⟩

theorem Follows.lt_length (follows : Follows s number subject box) :
    number < s.subscriptions.length := by
  rcases follows.place with hgiven | ⟨_, _, hheld, _⟩
  · exact (List.getElem?_eq_some_iff.mp hgiven).1
  · exact (List.getElem?_eq_some_iff.mp hheld).1

/-- Who comes to read a channel, and who no longer does, leaves what it keeps. -/
theorem keeps_setReaders {bus : Bus} {history : List Message} (other : String) (n : Nat)
    (keeps : (bus.channel subject).Keeps history) :
    ((bus.setChannel other ((bus.channel other).setReaders n)).channel subject).Keeps history := by
  rw [Bus.channel_setChannel]
  by_cases heq : other = subject
  · subst heq
    rw [if_pos rfl]
    exact keeps.setReaders n
  · rw [if_neg heq]
    exact keeps

/-- A message published on the subject reaches the mailbox. -/
theorem Follows.publish (sound : Sound s) (follows : Follows s number subject box)
    (payload : ByteArray) (headers : Headers) :
    Follows { s with bus := s.bus.publish subject payload headers } number subject
      { box with unread := box.unread ++ [⟨subject, payload, headers, s.bus.published⟩] } where
  closed := follows.closed
  place := by
    rcases follows.place with hgiven | ⟨history, position, hheld, hle, keeps, hunread⟩
    · exact Or.inl hgiven
    · have hreader : s.held number = some ⟨subject, position⟩ :=
        Option.join_eq_some_iff.mpr hheld
      have hreaders := readers_pos hreader
      rw [← sound.counted] at hreaders
      have keeps' := keeps.send (Nat.ne_of_gt hreaders)
        ⟨subject, payload, headers, s.bus.published⟩
      refine Or.inr ⟨history ++ [⟨subject, payload, headers, s.bus.published⟩], position, hheld,
        ?_, ?_, ?_⟩
      · rw [List.length_append]
        exact Nat.le_add_right_of_le hle
      · rw [Bus.channel_publish, if_pos rfl]
        exact keeps'
      · rw [hunread, List.drop_append_of_le_length hle]

/-- The subscription reads. -/
theorem Follows.next (follows : Follows s number subject box)
    (hcapacity : s.capacity? subject = some c) {reader : Subscription}
    (hheld : s.held number = some reader) :
    Follows ⟨s.bus, s.subscriptions.set number (some (s.bus.receive reader).2)⟩ number subject
        (box.read c).2 ∧
      (s.bus.receive reader).1 = (box.read c).1 := by
  have hentry := entry_of_held hheld
  rcases follows.place with hgiven | ⟨history, position, hplace, hle, keeps, hunread⟩
  · rw [hgiven] at hentry
    cases hentry
  · obtain rfl : (⟨subject, position⟩ : Subscription) = reader := by
      rw [hplace] at hentry
      exact Option.some.inj (Option.some.inj hentry)
    obtain rfl : box = ⟨history.drop position, s.bus.closed⟩ := by
      rw [← hunread, ← follows.closed]
    have hc : (s.bus.channel subject).capacity = c := by rw [channel_capacity, hcapacity]; rfl
    obtain ⟨hread, hle'⟩ := keeps.receive s.bus.closed hle
    rw [← hc, hread]
    refine ⟨⟨rfl, Or.inr ⟨history, _, ?_, hle', keeps, rfl⟩⟩, rfl⟩
    exact List.getElem?_set_self follows.lt_length

/-- A read that finds nothing shows that the mailbox is empty. -/
theorem Follows.drained (follows : Follows s number subject box)
    (hcapacity : s.capacity? subject = some c)
    (h : s.step (.next number) = some ([(number, .nothing)], s')) : box.unread = [] := by
  obtain ⟨reader, hheld, hlog, _⟩ := step_next h
  have hfound := (follows.next hcapacity hheld).2
  have hnothing : (s.bus.receive reader).1 = .nothing := by
    simpa using hlog.symm
  rw [hnothing] at hfound
  rcases Mailbox.read_cases c box with ⟨m, rest, _, _, hread⟩ | ⟨skipped, kept, _, _, _, hread⟩ |
    ⟨hempty, _⟩
  · rw [hread] at hfound
    cases hfound
  · rw [hread] at hfound
    cases hfound
  · exact hempty

theorem Follows.step (sound : Sound s) (follows : Follows s number subject box)
    (hcapacity : s.capacity? subject = some c) (hpublished : s.bus.published = .ofNat published)
    (h : s.step call = some (log, s')) :
    Follows s' number subject (box.replay c (call.events subject number published)).2 ∧
      findings number log = (box.replay c (call.events subject number published)).1 := by
  cases call with
  | advertise other depth =>
    obtain ⟨_, rfl, ⟨_, rfl⟩ | ⟨hmissing, rfl⟩⟩ := step_advertise h
    · exact ⟨follows, rfl⟩
    · have hne : other ≠ subject := by
        rintro rfl
        rw [capacity?, hmissing] at hcapacity
        cases hcapacity
      refine ⟨follows.frame rfl rfl fun history keeps => ?_, rfl⟩
      rwa [Bus.channel_setChannel, if_neg hne]
  | publish other payload headers =>
    obtain ⟨_, rfl, rfl⟩ := step_publish h
    rw [BusCall.events]
    split
    · next heq =>
      subst heq
      have followed := follows.publish sound payload headers
      rw [hpublished] at followed
      exact ⟨followed, rfl⟩
    · next hne =>
      refine ⟨follows.frame rfl rfl fun history keeps => ?_, rfl⟩
      rwa [Bus.channel_publish, if_neg hne]
  | subscribe other =>
    obtain ⟨_, rfl, rfl⟩ := step_subscribe h
    refine ⟨follows.frame rfl (List.getElem?_append_left follows.lt_length) ?_, rfl⟩
    intro history keeps
    exact keeps_setReaders other _ keeps
  | unsubscribe other =>
    obtain ⟨reader, hheld, rfl, rfl⟩ := step_unsubscribe h
    refine ⟨?_, rfl⟩
    by_cases hnumber : other = number
    · subst hnumber
      exact ⟨follows.closed, Or.inl (List.getElem?_set_self follows.lt_length)⟩
    · refine follows.frame rfl (List.getElem?_set_ne hnumber) fun history keeps => ?_
      exact keeps_setReaders reader.subject _ keeps
  | next other =>
    obtain ⟨reader, hheld, rfl, rfl⟩ := step_next h
    rw [BusCall.events]
    by_cases hnumber : other = number
    · subst hnumber
      obtain ⟨followed, hfound⟩ := follows.next hcapacity hheld
      rw [if_pos rfl]
      refine ⟨followed, ?_⟩
      simp [findings, Mailbox.replay, hfound]
    · rw [if_neg hnumber]
      refine ⟨follows.frame rfl (List.getElem?_set_ne hnumber) fun _ keeps => keeps, ?_⟩
      simp [findings, Mailbox.replay, hnumber]
  | close =>
    obtain ⟨rfl, rfl⟩ := step_close h
    exact ⟨⟨rfl, follows.place⟩, rfl⟩

theorem published_step (hpublished : s.bus.published = .ofNat published)
    (h : s.step call = some (log, s')) :
    s'.bus.published = .ofNat (published + if call.isPublish then 1 else 0) := by
  cases call with
  | advertise other depth =>
    obtain ⟨_, _, ⟨_, rfl⟩ | ⟨_, rfl⟩⟩ := step_advertise h
    · exact hpublished
    · exact hpublished
  | publish other payload headers =>
    obtain ⟨_, _, rfl⟩ := step_publish h
    show s.bus.published + 1 = UInt64.ofNat (published + 1)
    rw [hpublished, UInt64.ofNat_add]
    rfl
  | subscribe other =>
    obtain ⟨_, _, rfl⟩ := step_subscribe h
    exact hpublished
  | unsubscribe other =>
    obtain ⟨_, _, _, rfl⟩ := step_unsubscribe h
    exact hpublished
  | next other =>
    obtain ⟨_, _, _, rfl⟩ := step_next h
    exact hpublished
  | close =>
    obtain ⟨_, rfl⟩ := step_close h
    exact hpublished

/-- Subscriptions keep their numbers, and only those made before are read. -/
theorem length_step (h : s.step call = some (log, s')) :
    s'.subscriptions.length = s.subscriptions.length + (if call.isSubscribe then 1 else 0) ∧
      ∀ entry ∈ log, entry.1 < s.subscriptions.length := by
  cases call with
  | advertise other depth =>
    obtain ⟨_, rfl, ⟨_, rfl⟩ | ⟨_, rfl⟩⟩ := step_advertise h
    · exact ⟨rfl, by simp⟩
    · exact ⟨rfl, by simp⟩
  | publish other payload headers =>
    obtain ⟨_, rfl, rfl⟩ := step_publish h
    exact ⟨rfl, by simp⟩
  | subscribe other =>
    obtain ⟨_, rfl, rfl⟩ := step_subscribe h
    exact ⟨by simp [BusCall.isSubscribe], by simp⟩
  | unsubscribe other =>
    obtain ⟨_, _, rfl, rfl⟩ := step_unsubscribe h
    exact ⟨by simp [BusCall.isSubscribe], by simp⟩
  | next other =>
    obtain ⟨reader, hheld, rfl, rfl⟩ := step_next h
    refine ⟨by simp [BusCall.isSubscribe], ?_⟩
    simpa using (List.getElem?_eq_some_iff.mp (entry_of_held hheld)).1
  | close =>
    obtain ⟨rfl, rfl⟩ := step_close h
    exact ⟨rfl, by simp⟩

/-! ## Whole runs -/

theorem run_cons (h : s.run (call :: calls) = some (log, s')) :
    ∃ log₁ s₁ log₂, s.step call = some (log₁, s₁) ∧ s₁.run calls = some (log₂, s') ∧
      log = log₁ ++ log₂ := by
  simp only [Session.run, Option.bind_eq_bind, Option.bind_eq_some_iff] at h
  obtain ⟨⟨log₁, s₁⟩, hstep, ⟨log₂, s₂⟩, hrun, heq⟩ := h
  obtain ⟨rfl, rfl⟩ := Prod.mk.inj (Option.some.inj heq)
  exact ⟨log₁, s₁, log₂, hstep, hrun, rfl⟩

theorem run_single (h : s.step call = some (log, s')) : s.run [call] = some (log, s') := by
  simp [Session.run, h]

theorem run_join {later : List BusCall} {s₁ : Session} {log₁ log₂ : List (Nat × Reception)}
    (h : s.run calls = some (log₁, s₁)) (hlater : s₁.run later = some (log₂, s')) :
    s.run (calls ++ later) = some (log₁ ++ log₂, s') := by
  induction calls generalizing s log₁ with
  | nil =>
    obtain ⟨rfl, rfl⟩ := Prod.mk.inj (Option.some.inj h)
    exact hlater
  | cons call calls ih =>
    obtain ⟨log₃, s₃, log₄, hstep, hcalls, rfl⟩ := run_cons h
    rw [List.cons_append, Session.run, hstep]
    simp [ih hcalls]

theorem run_append {later : List BusCall} (h : s.run (calls ++ later) = some (log, s')) :
    ∃ log₁ s₁ log₂, s.run calls = some (log₁, s₁) ∧ s₁.run later = some (log₂, s') ∧
      log = log₁ ++ log₂ := by
  induction calls generalizing s log with
  | nil => exact ⟨[], s, log, rfl, h, rfl⟩
  | cons call calls ih =>
    obtain ⟨log₁, s₁, log₂, hstep, hrun, rfl⟩ := run_cons h
    obtain ⟨log₃, s₃, log₄, hcalls, hlater, rfl⟩ := ih hrun
    refine ⟨log₁ ++ log₃, s₃, log₄, ?_, hlater, (List.append_assoc _ _ _).symm⟩
    rw [Session.run, hstep]
    simp [hcalls]

theorem findings_append (number : Nat) (log later : List (Nat × Reception)) :
    findings number (log ++ later) = findings number log ++ findings number later := by
  rw [findings, List.filter_append, List.map_append]
  rfl

/-- What calls leave behind. -/
theorem run_prepares (sound : Sound s) (hpublished : s.bus.published = .ofNat published)
    (h : s.run calls = some (log, s')) :
    Sound s' ∧ s'.bus.published = .ofNat (published + calls.countP BusCall.isPublish) ∧
      s'.subscriptions.length = s.subscriptions.length + calls.countP BusCall.isSubscribe ∧
      (∀ entry ∈ log, entry.1 < s'.subscriptions.length) ∧
      ∀ subject, s'.capacity? subject =
        (s.capacity? subject).or (calls.findSome? (capacityBy subject)) := by
  induction calls generalizing s published log with
  | nil =>
    obtain ⟨rfl, rfl⟩ := Prod.mk.inj (Option.some.inj h)
    exact ⟨sound, hpublished, rfl, by simp, fun subject => Option.or_none.symm⟩
  | cons call calls ih =>
    obtain ⟨log₁, s₁, log₂, hstep, hrun, rfl⟩ := run_cons h
    obtain ⟨hlength, hbound⟩ := length_step hstep
    obtain ⟨sound', hpublished', hlength', hbound', hcapacity'⟩ :=
      ih (sound.step hstep) (published_step hpublished hstep) hrun
    refine ⟨sound', ?_, ?_, ?_, ?_⟩
    · rw [hpublished', List.countP_cons]
      congr 1
      omega
    · rw [hlength', hlength, List.countP_cons]
      omega
    · intro entry hentry
      rcases List.mem_append.mp hentry with hfirst | hlater
      · have hlt := hbound entry hfirst
        omega
      · exact hbound' entry hlater
    · intro subject
      rw [hcapacity', sound.capacity?_step hstep, Option.or_assoc, List.findSome?_cons]
      cases capacityBy subject call <;> rfl

theorem Follows.run (sound : Sound s) (follows : Follows s number subject box)
    (hcapacity : s.capacity? subject = some c) (hpublished : s.bus.published = .ofNat published)
    (h : s.run calls = some (log, s')) :
    Follows s' number subject
        (box.replay c (BusCall.allEvents subject number published calls)).2 ∧
      findings number log =
        (box.replay c (BusCall.allEvents subject number published calls)).1 := by
  induction calls generalizing s published log box with
  | nil =>
    obtain ⟨rfl, rfl⟩ := Prod.mk.inj (Option.some.inj h)
    exact ⟨follows, rfl⟩
  | cons call calls ih =>
    obtain ⟨log₁, s₁, log₂, hstep, hrun, rfl⟩ := run_cons h
    obtain ⟨follows₁, hfound₁⟩ := follows.step sound hcapacity hpublished hstep
    have hcapacity₁ : s₁.capacity? subject = some c := by
      rw [sound.capacity?_step hstep, hcapacity, Option.some_or]
    obtain ⟨follows₂, hfound₂⟩ :=
      ih (sound.step hstep) follows₁ hcapacity₁ (published_step hpublished hstep) hrun
    rw [BusCall.allEvents, Mailbox.replay_append]
    refine ⟨follows₂, ?_⟩
    rw [findings_append, hfound₁, hfound₂]

/-- A subscription that was just made is an empty mailbox. -/
theorem Follows.fresh (sound : Sound s) (h : s.step (.subscribe subject) = some (log, s')) :
    Follows s' s.subscriptions.length subject .fresh := by
  obtain ⟨hopen, _, rfl⟩ := step_subscribe h
  obtain ⟨history, keeps⟩ := sound.keeps subject
  refine ⟨hopen.symm, Or.inr ⟨history, (s.bus.channel subject).sent, ?_, ?_, ?_, ?_⟩⟩
  · simp
  · exact Nat.le_of_eq keeps.sent
  · exact keeps_setReaders subject _ keeps
  · rw [keeps.sent, List.drop_length]
    rfl

theorem findings_of_lt (hbound : ∀ entry ∈ log, entry.1 < number) : findings number log = [] := by
  rw [findings, List.map_eq_nil_iff, List.filter_eq_nil_iff]
  intro entry hentry heq
  exact Nat.ne_of_lt (hbound entry hentry) (beq_iff_eq.mp heq)

/-- The subscription itself touches its subject. -/
theorem capacityOf_subscribe (before after : List BusCall) (subject : String) :
    capacityOf subject (before ++ .subscribe subject :: after) =
      (before.findSome? (capacityBy subject)).getD Bus.defaultDepth := by
  rw [capacityOf, List.findSome?_append, List.findSome?_cons]
  cases before.findSome? (capacityBy subject) with
  | none => simp [capacityBy]
  | some c => rfl

theorem capacityOf_pos (subject : String) (calls : List BusCall) :
    0 < capacityOf subject calls := by
  rw [capacityOf]
  cases hfound : calls.findSome? (capacityBy subject) with
  | none => exact Nat.zero_lt_succ _
  | some c =>
    obtain ⟨call, _, hcall⟩ := List.exists_of_findSome?_eq_some hfound
    exact capacityBy_pos hcall

/-- What is found after a subscription was made. -/
theorem follow_subscription {before after : List BusCall} {s₁ s₂ : Session}
    {log₁ log₂ log₃ : List (Nat × Reception)} (hbefore : run .empty before = some (log₁, s₁))
    (hsubscribe : s₁.step (.subscribe subject) = some (log₂, s₂))
    (hafter : s₂.run after = some (log₃, s)) :
    let number := s₁.subscriptions.length
    let capacity := capacityOf subject (before ++ .subscribe subject :: after)
    let events := BusCall.allEvents subject number (before.countP BusCall.isPublish) after
    findings number (log₂ ++ log₃) = (Mailbox.fresh.replay capacity events).1 ∧
      Follows s number subject (Mailbox.fresh.replay capacity events).2 ∧
      s.capacity? subject = some capacity := by
  intro number capacity events
  have hnone : Session.empty.bus.published = .ofNat 0 := rfl
  obtain ⟨sound, hpublished, _, _, hcapacity⟩ := run_prepares Sound.empty hnone hbefore
  rw [Nat.zero_add] at hpublished
  have hpublished₂ : s₂.bus.published = .ofNat (before.countP BusCall.isPublish) :=
    published_step hpublished hsubscribe
  have hcapacity₂ : s₂.capacity? subject = some capacity := by
    rw [sound.capacity?_step hsubscribe, hcapacity]
    show (Option.or none _).or (capacityBy subject (.subscribe subject)) = some (capacityOf _ _)
    rw [capacityOf_subscribe, Option.none_or, capacityBy, if_pos rfl, Option.or_some]
  have sound₂ := sound.step hsubscribe
  obtain ⟨follows, hfound⟩ :=
    (Follows.fresh sound hsubscribe).run sound₂ hcapacity₂ hpublished₂ hafter
  obtain ⟨_, _, _, _, hcapacity₃⟩ := run_prepares sound₂ hpublished₂ hafter
  have hsilent : log₂ = [] := (step_subscribe hsubscribe).2.1
  refine ⟨?_, follows, ?_⟩
  · rw [hsilent]
    exact hfound
  · rw [hcapacity₃, hcapacity₂, Option.some_or]

/-- A subscription, made anywhere in a run, finds what its mailbox holds: the messages published on
its subject since, of which every one was found, reported as lost or is still to come. -/
theorem run_delivers {before after : List BusCall}
    (h : run .empty (before ++ .subscribe subject :: after) = some (log, s)) :
    let number := before.countP BusCall.isSubscribe
    let capacity := capacityOf subject (before ++ .subscribe subject :: after)
    let events := BusCall.allEvents subject number (before.countP BusCall.isPublish) after
    let found := findings number log
    let unread := (Mailbox.fresh.replay capacity events).2.unread
    found = (Mailbox.fresh.replay capacity events).1 ∧
      ∃ taken, Mailbox.postings events = taken ++ unread ∧
        (Mailbox.returned found).Sublist taken ∧
        taken.length = (Mailbox.returned found).length + Mailbox.lost found := by
  intro number capacity events found unread
  obtain ⟨log₁, s₁, log₂, hbefore, hrest, rfl⟩ := run_append h
  obtain ⟨log₃, s₂, log₄, hsubscribe, hafter, rfl⟩ := run_cons hrest
  have hnone : Session.empty.bus.published = .ofNat 0 := rfl
  obtain ⟨_, _, hlength, hbound, _⟩ := run_prepares Sound.empty hnone hbefore
  have hnumber : s₁.subscriptions.length = number := hlength.trans (Nat.zero_add _)
  have hfound := (follow_subscription hbefore hsubscribe hafter).1
  rw [hnumber] at hbound hfound
  have hall : found = (Mailbox.fresh.replay capacity events).1 :=
    calc
      found = findings number log₁ ++ findings number (log₃ ++ log₄) := findings_append _ _ _
      _ = findings number (log₃ ++ log₄) := by rw [findings_of_lt hbound, List.nil_append]
      _ = (Mailbox.fresh.replay capacity events).1 := hfound
  refine ⟨hall, ?_⟩
  obtain ⟨taken, hsplit, hsublist, hlength⟩ := Mailbox.replay_accounts capacity events .fresh
  rw [← hall] at hsublist hlength
  exact ⟨taken, hsplit, hsublist, hlength⟩

/-- Three messages for a reader of two: the oldest is lost, the others outlive the bus. -/
theorem run_delivers_overrun :
    let before : List BusCall := [.advertise "camera" 2]
    let after : List BusCall :=
      [.publish "camera" ⟨#[1]⟩ ∅, .publish "sound" ⟨#[2]⟩ ∅, .publish "camera" ⟨#[3]⟩ ∅,
        .publish "camera" ⟨#[4]⟩ ∅, .next 0, .next 0, .close, .next 0, .next 0]
    ∃ log s, run .empty (before ++ .subscribe "camera" :: after) = some (log, s) ∧
      findings 0 log = [.fault (.lagged 1), .message ⟨"camera", ⟨#[3]⟩, ∅, 2⟩,
        .message ⟨"camera", ⟨#[4]⟩, ∅, 3⟩, .fault .closed] := by
  intro before after
  have hpossible : (run .empty (before ++ .subscribe "camera" :: after)).isSome = true := by
    decide +kernel
  obtain ⟨⟨log, s⟩, hrun⟩ := Option.isSome_iff_exists.mp hpossible
  refine ⟨log, s, hrun, (run_delivers hrun).1.trans ?_⟩
  have hcapacity : capacityOf "camera" (before ++ .subscribe "camera" :: after) = 2 := by
    decide +kernel
  rw [hcapacity]
  rfl

end Session

end PacedImages
