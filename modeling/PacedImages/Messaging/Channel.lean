import PacedImages.Messaging.Message

/-!
# Channels

A channel keeps the last messages sent on it, as many as its capacity, which is a power of two.
Messages are counted from the first that was kept; a reader is a position in that count. A reader
that falls behind the kept messages is told how many it missed and goes on with the oldest kept one.
A message sent while nobody reads is kept by nobody. Memory for the places of a channel is taken as
given: a process that has less ends at shallower channels already.
-/

namespace PacedImages

structure Channel where
  capacity : Nat
  /-- How many messages have been kept so far, those overwritten since included. -/
  sent : Nat
  /-- The messages kept now, oldest first. -/
  kept : List Message
  /-- How many subscriptions read the channel. -/
  readers : Nat

/-- What a reader finds at its position. -/
inductive Reception where
  | message (m : Message)
  | nothing
  | fault (f : ReceiveFault)

namespace Channel

/-- The least capacity that overflows the size of a buffer, which stops the process whatever memory
there is. That memory is exhausted by smaller ones is left out. -/
def capacityLimit : Nat := 0x100000000000000

/-- A channel for at least so many messages, none if the size of its buffer overflows; memory for
any other is taken as given. -/
def create? (depth : Nat) : Option Channel :=
  let capacity := (max depth 1).nextPowerOfTwo
  if capacity < capacityLimit then some ⟨capacity, 0, [], 0⟩ else none

/-- Sends a message, which is kept if anybody reads the channel. -/
def send (c : Channel) (m : Message) : Channel :=
  if c.readers = 0 then c
  else
    let kept := c.kept ++ [m]
    { c with sent := c.sent + 1, kept := kept.drop (kept.length - c.capacity) }

/-- The position of the oldest kept message. -/
def oldest (c : Channel) : Nat := c.sent - c.kept.length

/-- What stands at a position, and the position to go on from. -/
def receive (c : Channel) (closed : Bool) (position : Nat) : Reception × Nat :=
  if position < c.oldest then (.fault (.lagged (c.oldest - position)), c.oldest)
  else match c.kept[position - c.oldest]? with
    | some m => (.message m, position + 1)
    | none => if closed then (.fault .closed, position) else (.nothing, position)

end Channel

end PacedImages
