import PacedImages.Text.Numeral

/-!
# Reading binary64 numbers

A decimal fraction with an optional exponent, rounded to the nearest binary64 number. Digits may be
missing on one side of the point, not on both. Numbers too large for binary64 are refused.
-/

namespace PacedImages.Decimal

/-- The exponent behind the digits; `0` if there is none. -/
def readExponent? : List Char → Option Int
  | [] => some 0
  | mark :: rest =>
    if mark == 'e' || mark == 'E' then
      match rest with
      | '-' :: digits => (Text.digits? 10 digits).map fun n => -(n : Int)
      | '+' :: digits => (Text.digits? 10 digits).map Int.ofNat
      | digits => (Text.digits? 10 digits).map Int.ofNat
    else none

/-- The number `coefficient * 10 ^ exponent`, none if it is too large. -/
def scaled? (coefficient : Nat) (exponent : Int) : Option Float :=
  let leading := exponent + (Nat.toDigits 10 coefficient).length
  if coefficient = 0 || leading < -400 then some 0.0
  else if 400 < leading then none
  else
    let x := Float.ofScientific coefficient (exponent < 0) exponent.natAbs
    if x.isFinite then some x else none

/-- The digits of a magnitude without a sign, and the power of ten that they are scaled by. -/
def readDigits? (cs : List Char) : Option (Nat × Int) := do
  let whole := cs.takeWhile Char.isDigit
  let rest := cs.drop whole.length
  let (fraction, rest) := match rest with
    | '.' :: after =>
      let fraction := after.takeWhile Char.isDigit
      (fraction, after.drop fraction.length)
    | _ => ([], rest)
  let coefficient ← Text.digits? 10 (whole ++ fraction)
  let exponent ← readExponent? rest
  return (coefficient, exponent - fraction.length)

/-- A magnitude without a sign. -/
def readMagnitude? (cs : List Char) : Option Float := do
  let (coefficient, exponent) ← readDigits? cs
  scaled? coefficient exponent

/-- A number with an optional sign. -/
def readFloat? : List Char → Option Float
  | '-' :: rest => (readMagnitude? rest).map fun x => -x
  | '+' :: rest => readMagnitude? rest
  | cs => readMagnitude? cs

end PacedImages.Decimal
