/-!
# Shutdown requests

A flag that can be requested once and stays requested. A watcher remembers the value that it saw
last; requesting is the only change that it can have missed.
-/

namespace PacedImages

structure Shutdown where
  requested : Bool
deriving Repr, DecidableEq

namespace Shutdown

def fresh : Shutdown := ⟨false⟩

/-- Requests shutdown, and tells whether this is the first request. -/
def request (s : Shutdown) : Bool × Shutdown := (!s.requested, ⟨true⟩)

end Shutdown

/-- What a watcher saw last. -/
structure Watcher where
  seen : Bool
deriving Repr, DecidableEq

namespace Watcher

/-- A watcher that has seen the present value. -/
def of (s : Shutdown) : Watcher := ⟨s.requested⟩

/-- Whether the value changed since it was seen. -/
def hasChanged (w : Watcher) (s : Shutdown) : Bool := w.seen != s.requested

/-- The present value, which counts as seen from now on. -/
def mark (_w : Watcher) (s : Shutdown) : Bool × Watcher := (s.requested, of s)

end Watcher

end PacedImages
