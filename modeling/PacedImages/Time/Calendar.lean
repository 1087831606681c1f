import PacedImages.Image.Stamp
import PacedImages.Text.Numeral

/-!
# Calendar

The date and the time of day of a stamp, in the Gregorian calendar and without leap seconds. Years
are counted from March on, so that the leap day is the last of its year; 146097 days make four
centuries.
-/

namespace PacedImages

structure Date where
  year : Int
  month : Nat
  day : Nat
deriving Repr, DecidableEq

/-- The date so many days after the first of January 1970. -/
def Date.ofDay (day : Int) : Date :=
  let shifted := day + 719468
  let era := shifted / 146097
  let dayOfEra := (shifted % 146097).toNat
  let yearOfEra := (dayOfEra - dayOfEra / 1460 + dayOfEra / 36524 - dayOfEra / 146096) / 365
  let dayOfYear := dayOfEra - (365 * yearOfEra + yearOfEra / 4 - yearOfEra / 100)
  let monthFromMarch := (5 * dayOfYear + 2) / 153
  let month := if monthFromMarch < 10 then monthFromMarch + 3 else monthFromMarch - 9
  { year := era * 400 + yearOfEra + (if month ≤ 2 then 1 else 0)
    month
    day := dayOfYear - (153 * monthFromMarch + 2) / 5 + 1 }

/-- A number with zeros on the left. -/
def Date.padded (width n : Nat) : String := String.ofList (Text.paddedDigits width n)

/-- The moment to the microsecond, as date and time with `T` between and `Z` at the end. -/
def Stamp.isoText (s : Stamp) : String :=
  let date := Date.ofDay (s.seconds / 86400)
  let second := (s.seconds % 86400).toNat
  let pad := Date.padded
  let day := s!"{pad 4 date.year.toNat}-{pad 2 date.month}-{pad 2 date.day}"
  let time := s!"{pad 2 (second / 3600)}:{pad 2 (second / 60 % 60)}:{pad 2 (second % 60)}"
  s!"{day}T{time}.{pad 6 (s.nanos / 1000)}Z"

end PacedImages
