/-!
# Stamps

Points in time as seconds and nanoseconds from 1970, within the range of the calendar that is in
use. A leap second is the last second of a minute with more than 10⁹ nanoseconds. A stamper turns
clock readings into stamps that strictly increase, whatever the clock does.
-/

namespace PacedImages

structure Stamp where
  seconds : Int
  nanos : Nat
deriving Repr, DecidableEq

namespace Stamp

def nanosPerSecond : Nat := 1000000000

/-- The first and the last second of the calendar, in the years −262143 and 262142. -/
def firstSecond : Int := -8334601228800

def lastSecond : Int := 8210266876799

/-- Whether the calendar has the moment. -/
def isRepresentable (seconds : Int) (nanos : Nat) : Bool :=
  firstSecond ≤ seconds && seconds ≤ lastSecond &&
    (nanos < nanosPerSecond || (nanos < 2 * nanosPerSecond && seconds % 60 == 59))

def ofParts? (seconds : Int) (nanos : Nat) : Option Stamp :=
  if isRepresentable seconds nanos then some ⟨seconds, nanos⟩ else none

/-- Whether a moment comes before another. -/
def isBefore (a b : Stamp) : Bool :=
  a.seconds < b.seconds || (a.seconds == b.seconds && a.nanos < b.nanos)

/-- One nanosecond later. -/
def next (s : Stamp) : Stamp :=
  if s.nanos + 1 = nanosPerSecond ∨ 2 * nanosPerSecond ≤ s.nanos + 1 then ⟨s.seconds + 1, 0⟩
  else ⟨s.seconds, s.nanos + 1⟩

end Stamp

/-- The last stamp that was given. -/
structure Stamper where
  last : Option Stamp
deriving Repr, DecidableEq

namespace Stamper

def fresh : Stamper := ⟨none⟩

/-- The stamp for a clock reading: the reading itself if it is later than the last stamp. -/
def stamp (s : Stamper) (reading : Stamp) : Stamp × Stamper :=
  let given := match s.last with
    | some last => if last.isBefore reading then reading else last.next
    | none => reading
  (given, ⟨some given⟩)

/-- The stamps for a list of readings, one after the other. -/
def stamps : Stamper → List Stamp → List Stamp
  | _, [] => []
  | s, reading :: rest =>
    let (given, s) := s.stamp reading
    given :: s.stamps rest

end Stamper

end PacedImages
