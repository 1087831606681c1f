import PacedImages.Proofs.Messaging.Mailbox

/-!
# Channels as mailboxes

A channel keeps the end of its history, the list of all messages sent on it while somebody read it.
A reader is a place in that history, and what it finds is what a mailbox with the rest gives.
-/

namespace PacedImages.Channel

/-- The channel with another number of readers. -/
def setReaders (c : Channel) (n : Nat) : Channel := { c with readers := n }

/-- The channel keeps the end of the history, as much as it holds. -/
structure Keeps (c : Channel) (history : List Message) : Prop where
  sent : c.sent = history.length
  kept : c.kept = history.drop (history.length - c.capacity)

variable {c : Channel} {history : List Message} {position : Nat}

theorem Keeps.setReaders (keeps : Keeps c history) (n : Nat) :
    Keeps (c.setReaders n) history :=
  ⟨keeps.sent, keeps.kept⟩

/-- A message that somebody reads ends the history. -/
theorem Keeps.send (keeps : Keeps c history) (hreaders : c.readers ≠ 0) (m : Message) :
    Keeps (c.send m) (history ++ [m]) := by
  have hlength : c.kept.length = history.length - (history.length - c.capacity) := by
    rw [keeps.kept, List.length_drop]
  rw [Channel.send, if_neg hreaders]
  constructor
  · simp only [keeps.sent, List.length_append, List.length_singleton]
  · have hle : history.length - c.capacity ≤ history.length := Nat.sub_le _ _
    have hdropped : c.kept ++ [m] = (history ++ [m]).drop (history.length - c.capacity) := by
      rw [keeps.kept, List.drop_append_of_le_length hle]
    have hsum : history.length - c.capacity + ((c.kept ++ [m]).length - c.capacity) =
        (history ++ [m]).length - c.capacity := by
      simp only [List.length_append, List.length_singleton, hlength]
      omega
    simp only [hdropped, List.drop_drop] at hsum ⊢
    rw [hsum]

theorem readers_send (c : Channel) (m : Message) : (c.send m).readers = c.readers := by
  rw [Channel.send]
  split <;> rfl

theorem capacity_send (c : Channel) (m : Message) : (c.send m).capacity = c.capacity := by
  rw [Channel.send]
  split <;> rfl

theorem Keeps.send_exists (keeps : Keeps c history) (m : Message) :
    ∃ history, Keeps (c.send m) history := by
  by_cases hreaders : c.readers = 0
  · rw [Channel.send, if_pos hreaders]
    exact ⟨history, keeps⟩
  · exact ⟨history ++ [m], keeps.send hreaders m⟩

theorem Keeps.oldest (keeps : Keeps c history) : c.oldest = history.length - c.capacity := by
  rw [Channel.oldest, keeps.sent, keeps.kept, List.length_drop]
  omega

/-- A reader finds what a mailbox with the rest of the history gives. -/
theorem Keeps.receive (keeps : Keeps c history) (closed : Bool)
    (hposition : position ≤ history.length) :
    Mailbox.read c.capacity ⟨history.drop position, closed⟩ =
        ((c.receive closed position).1, ⟨history.drop (c.receive closed position).2, closed⟩) ∧
      (c.receive closed position).2 ≤ history.length := by
  have hmissed : (history.drop position).length - c.capacity =
      history.length - c.capacity - position := by
    rw [List.length_drop]
    omega
  simp only [Channel.receive, keeps.oldest, keeps.kept, Mailbox.read, hmissed]
  by_cases hbehind : position < history.length - c.capacity
  · have hexcess : 0 < history.length - c.capacity - position := Nat.sub_pos_of_lt hbehind
    have hskip : position + (history.length - c.capacity - position) =
        history.length - c.capacity := Nat.add_sub_cancel' (Nat.le_of_lt hbehind)
    simp only [if_pos hbehind, if_pos hexcess, List.drop_drop, hskip]
    exact ⟨trivial, Nat.sub_le _ _⟩
  · have hexcess : ¬ 0 < history.length - c.capacity - position := by omega
    have hplace : history.length - c.capacity + (position - (history.length - c.capacity)) =
        position := Nat.add_sub_cancel' (Nat.le_of_not_lt hbehind)
    simp only [if_neg hbehind, if_neg hexcess, List.getElem?_drop, hplace]
    by_cases hmore : position < history.length
    · rw [List.getElem?_eq_getElem hmore, List.drop_eq_getElem_cons hmore]
      exact ⟨rfl, hmore⟩
    · have hend := Nat.le_of_not_lt hmore
      rw [List.getElem?_eq_none hend, List.drop_eq_nil_of_le hend]
      cases closed with
      | true => exact ⟨by simp [List.drop_eq_nil_of_le hend], hposition⟩
      | false => exact ⟨by simp [List.drop_eq_nil_of_le hend], hposition⟩

end PacedImages.Channel
