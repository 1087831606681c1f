import PacedImages.Image.Keystream
import PacedImages.Image.Stamp
import PacedImages.Log.Entry
import PacedImages.Messaging.Message
import PacedImages.Metrics
import PacedImages.Time.Instant

/-!
# The world around a publisher

Everything that happens outside of the values of this library, as actions in a monad: time and
sleep, the request to shut down, the transport, the calendar, and where reports and counts go. The
same code runs in the real world and in a simulated one.
-/

namespace PacedImages

/-- Why a subject could not be registered. -/
inductive AdvertiseFault where
  | refused (error : TransportError)
  /-- A depth that no channel can hold, which stops the process. -/
  | crash

structure World (m : Type → Type) where
  now : m Instant
  sleepUntil : Instant → m Unit
  /-- Sleeps until the instant or until shutdown is requested, and tells whether it is. -/
  sleepOrShutdown : Instant → m Bool
  isShutdown : m Bool
  requestShutdown : m Unit
  /-- What the calendar shows. -/
  reading : m Stamp
  /-- Asks for memory for so many bytes, and tells whether it is granted. -/
  reserve : Nat → m Bool
  /-- A key that nobody can foresee. -/
  drawKey : m Keystream.Key
  advertise : String → Nat → m (Except AdvertiseFault Unit)
  /-- Hands a message to the transport, and tells how many seconds that took. -/
  publish : String → ByteArray → Headers → m (Except TransportError Unit × Float)
  count : (Metrics → Metrics) → m Unit
  note : LogEntry → m Unit

end PacedImages
