import PacedImages.Messaging.Channel

/-!
# Mailboxes

What one reader of a channel sees, said without the ring that the channel is: messages wait in a
mailbox without bounds, and a reader that finds more of them than the channel holds loses all but as
many, the oldest first. Every message that reaches the mailbox is read, lost or still waiting.
-/

namespace PacedImages

structure Mailbox where
  /-- The messages that wait, oldest first. -/
  unread : List Message
  closed : Bool

/-- What happens to a mailbox. -/
inductive MailboxEvent where
  | posted (m : Message)
  | closed
  | read

namespace Mailbox

def fresh : Mailbox := ⟨[], false⟩

/-- What the reader of a channel of that capacity finds, and the mailbox after that. -/
def read (capacity : Nat) (box : Mailbox) : Reception × Mailbox :=
  let excess := box.unread.length - capacity
  if 0 < excess then (.fault (.lagged excess), { box with unread := box.unread.drop excess })
  else match box.unread with
    | m :: rest => (.message m, { box with unread := rest })
    | [] => if box.closed then (.fault .closed, box) else (.nothing, box)

/-- What reads find in the course of events, and the mailbox at the end. -/
def replay (capacity : Nat) : Mailbox → List MailboxEvent → List Reception × Mailbox
  | box, [] => ([], box)
  | box, .posted m :: rest => replay capacity { box with unread := box.unread ++ [m] } rest
  | box, .closed :: rest => replay capacity { box with closed := true } rest
  | box, .read :: rest =>
    let (found, box) := box.read capacity
    let (later, box) := replay capacity box rest
    (found :: later, box)

/-- The messages that reach a mailbox. -/
def postings : List MailboxEvent → List Message
  | [] => []
  | .posted m :: rest => m :: postings rest
  | _ :: rest => postings rest

theorem postings_append (events later : List MailboxEvent) :
    postings (events ++ later) = postings events ++ postings later := by
  induction events with
  | nil => rfl
  | cons event rest ih =>
    cases event with
    | posted m => exact congrArg (m :: ·) ih
    | closed => exact ih
    | read => exact ih

/-- The messages among what was found. -/
def returned : List Reception → List Message
  | [] => []
  | .message m :: rest => m :: returned rest
  | _ :: rest => returned rest

/-- How many messages were reported as lost. -/
def lost : List Reception → Nat
  | [] => 0
  | .fault (.lagged missed) :: rest => missed + lost rest
  | _ :: rest => lost rest

variable {capacity : Nat} {box : Mailbox}

theorem replay_append (capacity : Nat) (events later : List MailboxEvent) :
    ∀ box : Mailbox, replay capacity box (events ++ later) =
      ((replay capacity box events).1 ++ (replay capacity (replay capacity box events).2 later).1,
        (replay capacity (replay capacity box events).2 later).2) := by
  induction events with
  | nil =>
    intro box
    rfl
  | cons event rest ih =>
    intro box
    cases event with
    | posted m => exact ih _
    | closed => exact ih _
    | read =>
      simp only [List.cons_append, replay, ih]

/-- One read finds a message, skips some, or finds nothing in an empty mailbox. -/
theorem read_cases (capacity : Nat) (box : Mailbox) :
    (∃ m rest, box.unread = m :: rest ∧ box.unread.length ≤ capacity ∧
      box.read capacity = (.message m, { box with unread := rest })) ∨
    (∃ skipped kept, box.unread = skipped ++ kept ∧ kept.length = capacity ∧ skipped ≠ [] ∧
      box.read capacity = (.fault (.lagged skipped.length), { box with unread := kept })) ∨
    (box.unread = [] ∧
      box.read capacity = (if box.closed then .fault .closed else .nothing, box)) := by
  by_cases hexcess : 0 < box.unread.length - capacity
  · refine Or.inr (Or.inl ⟨box.unread.take (box.unread.length - capacity),
      box.unread.drop (box.unread.length - capacity), ?_, ?_, ?_, ?_⟩)
    · exact (List.take_append_drop _ _).symm
    · rw [List.length_drop]
      omega
    · intro hnil
      have hlength := congrArg List.length hnil
      rw [List.length_take, List.length_nil] at hlength
      omega
    · have hlength : min (box.unread.length - capacity) box.unread.length =
          box.unread.length - capacity := by omega
      simp only [read, if_pos hexcess, List.length_take, hlength]
  · cases hunread : box.unread with
    | nil =>
      refine Or.inr (Or.inr ⟨rfl, ?_⟩)
      simp only [read, hunread, List.length_nil, Nat.zero_sub, Nat.lt_irrefl, if_false]
      split <;> rfl
    | cons m rest =>
      refine Or.inl ⟨m, rest, rfl, by rw [← hunread]; omega, ?_⟩
      rw [hunread] at hexcess
      simp only [read, hunread, if_neg hexcess]

/-- Every message is read, lost or still waiting, in the order in which they came. -/
theorem replay_accounts (capacity : Nat) (events : List MailboxEvent) :
    ∀ box : Mailbox, ∃ taken,
      box.unread ++ postings events = taken ++ (replay capacity box events).2.unread ∧
      (returned (replay capacity box events).1).Sublist taken ∧
      taken.length = (returned (replay capacity box events).1).length +
        lost (replay capacity box events).1 := by
  induction events with
  | nil =>
    intro box
    exact ⟨[], List.append_nil _, List.Sublist.refl _, rfl⟩
  | cons event rest ih =>
    intro box
    cases event with
    | posted m =>
      obtain ⟨taken, hsplit, hsublist, hlength⟩ := ih { box with unread := box.unread ++ [m] }
      refine ⟨taken, ?_, hsublist, hlength⟩
      rw [postings, replay, ← hsplit, List.append_assoc]
      rfl
    | closed =>
      exact ih { box with closed := true }
    | read =>
      simp only [replay, postings]
      rcases read_cases capacity box with ⟨m, others, hunread, _, hread⟩ |
        ⟨skipped, kept, hunread, _, _, hread⟩ | ⟨_, hread⟩
      · obtain ⟨taken, hsplit, hsublist, hlength⟩ := ih { box with unread := others }
        rw [hread, hunread]
        refine ⟨m :: taken, ?_, ?_, ?_⟩
        · rw [List.cons_append, hsplit]
          rfl
        · exact hsublist.cons_cons m
        · simp only [returned, lost, List.length_cons, hlength]
          omega
      · obtain ⟨taken, hsplit, hsublist, hlength⟩ := ih { box with unread := kept }
        rw [hread, hunread]
        refine ⟨skipped ++ taken, ?_, ?_, ?_⟩
        · rw [List.append_assoc, hsplit, List.append_assoc]
        · exact hsublist.trans (List.sublist_append_right _ _)
        · simp only [returned, lost, List.length_append, hlength]
          omega
      · obtain ⟨taken, hsplit, hsublist, hlength⟩ := ih box
        rw [hread]
        refine ⟨taken, hsplit, ?_, ?_⟩
        · split <;> exact hsublist
        · split <;> exact hlength

/-- Of a mailbox that was read empty the last message was found: a loss leaves as many messages as
the channel holds. -/
theorem last_returned (hcapacity : 0 < capacity) (events : List MailboxEvent) :
    ∀ box : Mailbox, (replay capacity box events).2.unread = [] →
      (returned (replay capacity box events).1).getLast? =
        (box.unread ++ postings events).getLast? := by
  induction events with
  | nil =>
    intro box hempty
    rw [replay] at hempty
    rw [replay, hempty]
    rfl
  | cons event rest ih =>
    intro box hempty
    cases event with
    | posted m =>
      have hlast := ih _ hempty
      rw [List.append_assoc] at hlast
      exact hlast
    | closed => exact ih _ hempty
    | read =>
      simp only [replay, postings] at hempty ⊢
      rcases read_cases capacity box with ⟨m, others, hunread, _, hread⟩ |
        ⟨skipped, kept, hunread, hkept, _, hread⟩ | ⟨_, hread⟩
      · rw [hread] at hempty ⊢
        have hlast := ih _ hempty
        rw [hunread, returned, List.cons_append, List.getLast?_cons, List.getLast?_cons, hlast]
      · rw [hread] at hempty ⊢
        have hlast := ih _ hempty
        have hsome : (kept ++ postings rest).getLast?.isSome = true := by
          rw [List.getLast?_isSome, ne_eq, List.append_eq_nil_iff]
          rintro ⟨rfl, -⟩
          exact Nat.ne_of_lt hcapacity hkept
        rw [hunread, List.append_assoc, List.getLast?_append, Option.or_of_isSome hsome]
        exact hlast
      · rw [hread] at hempty ⊢
        have hlast := ih _ hempty
        split <;> exact hlast

end Mailbox

end PacedImages
