import PacedImages.Time.Instant

/-!
# Period boundaries

A repeating timer is due at multiples of its period after its deadline. Once it has fired, its next
deadline is the first of them after the present; those that went by meanwhile are skipped. The way
from the old deadline is held in 64 bits and saturates.
-/

namespace PacedImages.Time

/-- The longest way between a deadline and the next, about 584 years. -/
def maxOffset : Duration := 0xFFFFFFFFFFFFFFFF

/-- The shortest period of a repeating timer. -/
def minPeriod : Duration := millis 1

/-- The first boundary after `now` that lies at least one period after the deadline. -/
def nextBoundary (deadline : Instant) (period : Duration) (now : Instant) : Instant :=
  if now < deadline + period then deadline + period
  else
    let periods := (now - deadline) / period + 1
    deadline + min (period * periods) maxOffset

end PacedImages.Time
