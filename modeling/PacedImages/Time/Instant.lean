/-!
# Instants

Time is counted in nanoseconds from a common origin, and durations likewise. A sleep is served by a
clock of whole milliseconds, so a deadline between two of them is rounded up; the clock moves by
whole milliseconds while it sleeps. Neither has an end here: the clock of a system holds about
2 ^ 63 seconds, and that a process stops at a sum of an instant and a duration beyond them is left
out.
-/

namespace PacedImages

/-- The nanoseconds since the origin, of which no clock runs out. -/
abbrev Instant := Nat

/-- A number of nanoseconds. -/
abbrev Duration := Nat

namespace Time

def nanosPerMilli : Nat := 1000000

def millis (n : Nat) : Duration := n * nanosPerMilli

/-- The milliseconds that have begun at an instant. -/
def begun (t : Instant) : Nat := (t + (nanosPerMilli - 1)) / nanosPerMilli

/-- The milliseconds that have passed at an instant. -/
def passed (t : Instant) : Nat := t / nanosPerMilli

/-- When a sleeper goes on that waits at `clock` for a millisecond to begin. -/
def wake (clock : Instant) (milli : Nat) : Instant := clock + millis (milli - passed clock)

end Time

end PacedImages
