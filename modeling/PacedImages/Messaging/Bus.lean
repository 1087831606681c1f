import PacedImages.Messaging.Channel
import PacedImages.Messaging.SubjectBook

/-!
# The in-process bus

A transport within one process: a channel for every subject that was used, and a count of all
messages published. The first use of a subject creates its channel, with the depth given if the
subject is advertised and with a default otherwise; later uses keep it. Subscriptions outlive the
bus: what their channels hold can still be read after it was closed.
-/

namespace PacedImages

structure Bus where
  channels : Std.ExtTreeMap String Channel
  /-- How many messages were published on all subjects together, in 64 bits. -/
  published : UInt64
  closed : Bool

/-- A place in the channel of a subject. -/
structure Subscription where
  subject : String
  position : Nat

namespace Bus

def empty : Bus := ⟨∅, 0, false⟩

/-- The capacity of a channel whose subject was not advertised. -/
def defaultDepth : Nat := 1024

/-- A channel that was not advertised. -/
def unadvertised : Channel := ⟨defaultDepth, 0, [], 0⟩

/-- Creates the channel of a subject if there is none; none if no channel can hold as much. -/
def advertise? (b : Bus) (subject : String) (depth : Nat) : Option Bus :=
  if b.channels.contains subject then some b
  else (Channel.create? depth).map fun channel =>
    { b with channels := b.channels.insert subject channel }

/-- The channel of a subject. -/
def channel (b : Bus) (subject : String) : Channel :=
  (b.channels[subject]?).getD unadvertised

def setChannel (b : Bus) (subject : String) (channel : Channel) : Bus :=
  { b with channels := b.channels.insert subject channel }

def publish (b : Bus) (subject : String) (payload : ByteArray) (headers : Headers) : Bus :=
  let m : Message := ⟨subject, payload, headers, b.published⟩
  { b.setChannel subject ((b.channel subject).send m) with published := b.published + 1 }

/-- A subscription to the messages published from now on. -/
def subscribe (b : Bus) (subject : String) : Bus × Subscription :=
  let channel := b.channel subject
  (b.setChannel subject { channel with readers := channel.readers + 1 }, ⟨subject, channel.sent⟩)

def unsubscribe (b : Bus) (s : Subscription) : Bus :=
  let channel := b.channel s.subject
  b.setChannel s.subject { channel with readers := channel.readers - 1 }

/-- What a subscription finds, and the subscription to go on with. -/
def receive (b : Bus) (s : Subscription) : Reception × Subscription :=
  let (found, position) := (b.channel s.subject).receive b.closed s.position
  (found, { s with position })

def close (b : Bus) : Bus := { b with closed := true }

end Bus

/-- A topic registered for publishing. -/
structure Advertisement where
  topic : String
  subject : String
  depth : Nat

/-- The depth of a topic for which none is given. -/
def Advertisement.defaultDepth : Nat := 10

/-- Registers a topic under its subject; the outer `none` stands for a depth that no channel can hold. -/
def Bus.register? (b : Bus) (book : SubjectBook) (topic : String) (depth : Nat) :
    Option (Except TransportError (Advertisement × Bus)) :=
  match (book.subject topic).1 with
  | .error e => some (.error e)
  | .ok subject => (b.advertise? subject depth).map fun b => .ok (⟨topic, subject, depth⟩, b)

end PacedImages
