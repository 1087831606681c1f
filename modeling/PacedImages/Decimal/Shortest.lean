/-!
# Shortest decimals

A finite binary64 magnitude is a fraction; the reals that round to it form an interval around it.
`shortest` is the decimal in that interval with the fewest digits, the nearest one if there are two.
Everything is exact arithmetic on natural numbers. Seventeen digits are always enough for binary64,
so the search is over that many grids.
-/

namespace PacedImages.Decimal

/-- What is done when two shortest decimals are equally near. -/
inductive Tie where
  | even
  | up
deriving Repr, DecidableEq

/-- The positive fraction `num / den` with the bounds `low / den` and `high / den` of its interval. -/
structure Rounding where
  num : Nat
  den : Nat
  low : Nat
  high : Nat
  closed : Bool
deriving Repr

/-- The decimal `coefficient * 10 ^ exponent`. -/
structure Scaled where
  coefficient : Nat
  exponent : Int
deriving Repr, DecidableEq

/-- The fraction `mantissa * 2 ^ exponent`; below a power of two the next fraction is half as far. -/
def Rounding.ofBinary (mantissa : Nat) (exponent : Int) (belowHalf : Bool) : Rounding :=
  let scale := Nat.pow 2 exponent.toNat
  { num := 4 * mantissa * scale
    den := 4 * Nat.pow 2 (-exponent).toNat
    low := (4 * mantissa - (if belowHalf then 1 else 2)) * scale
    high := (4 * mantissa + 2) * scale
    closed := mantissa % 2 = 0 }

/-- The quotient of a fraction by a power of ten, rounded down, and the remainder's fraction. -/
def Rounding.gridFloor (r : Rounding) (exponent : Int) : Nat × Nat × Nat :=
  let top := r.num * Nat.pow 10 (-exponent).toNat
  let bottom := r.den * Nat.pow 10 exponent.toNat
  (top / bottom, top % bottom, bottom)

/-- Whether a decimal lies in the interval. -/
def Rounding.contains (r : Rounding) (d : Scaled) : Bool :=
  let value := d.coefficient * Nat.pow 10 d.exponent.toNat * r.den
  let unit := Nat.pow 10 (-d.exponent).toNat
  if r.closed then r.low * unit ≤ value && value ≤ r.high * unit
  else r.low * unit < value && value < r.high * unit

/-- The exponent of ten of the leading digit of a positive fraction. -/
def Rounding.leading (r : Rounding) : Int :=
  if r.den ≤ r.num then ((Nat.toDigits 10 (r.num / r.den)).length : Int) - 1
  else
    let places := (Nat.toDigits 10 (r.den / r.num)).length
    if r.den ≤ r.num * Nat.pow 10 (places - 1) then -((places : Int) - 1) else -(places : Int)

/-- The decimal of the grid nearest to the fraction among those in the interval. -/
def Rounding.onGrid? (r : Rounding) (tie : Tie) (exponent : Int) : Option Scaled :=
  let (below, rest, unit) := r.gridFloor exponent
  let down : Scaled := ⟨below, exponent⟩
  let up : Scaled := ⟨below + 1, exponent⟩
  match r.contains down, r.contains up with
  | false, false => none
  | true, false => some down
  | false, true => some up
  | true, true =>
    if 2 * rest < unit then some down
    else if unit < 2 * rest then some up
    else match tie with
      | .up => some up
      | .even => some (if below % 2 = 0 then down else up)

/-- Without the zeros at the end of the coefficient; the fuel bounds their number. -/
def Scaled.stripZeros : Nat → Scaled → Scaled
  | 0, d => d
  | fuel + 1, d =>
    if d.coefficient ≠ 0 ∧ d.coefficient % 10 = 0 then
      stripZeros fuel ⟨d.coefficient / 10, d.exponent + 1⟩
    else d

/-- The shortest decimal of a positive fraction. -/
def Rounding.shortest (r : Rounding) (tie : Tie) : Scaled :=
  let leading := r.leading
  let found := (List.range 17).findSome? fun (places : Nat) => r.onGrid? tie (leading - places)
  (found.getD ⟨(r.gridFloor (leading - 16)).1, leading - 16⟩).stripZeros 20

end PacedImages.Decimal
