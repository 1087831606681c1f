/-!
# Decimal numerals

Reading of decimal integers: an optional sign, then one or more ASCII digits, and nothing else. A
reader is given the range of the numbers it accepts; an unsigned one takes no minus sign, not even
before a zero.
-/

namespace PacedImages.Text

/-- The value of a digit in a base of at most 36, letters counting from ten. -/
def digitValue? (base : Nat) (c : Char) : Option Nat :=
  let value :=
    if '0' ≤ c ∧ c ≤ '9' then c.toNat - '0'.toNat
    else if 'a' ≤ c ∧ c ≤ 'z' then c.toNat - 'a'.toNat + 10
    else if 'A' ≤ c ∧ c ≤ 'Z' then c.toNat - 'A'.toNat + 10
    else base
  if value < base then some value else none

/-- The number that follows `acc` when the digits are read on, none at a character that is no digit. -/
def digitsFrom? (base : Nat) : List Char → Nat → Option Nat
  | [], acc => some acc
  | c :: rest, acc =>
    match digitValue? base c with
    | some d => digitsFrom? base rest (acc * base + d)
    | none => none

/-- One or more digits of the base. -/
def digits? (base : Nat) (cs : List Char) : Option Nat :=
  if cs.isEmpty then none else digitsFrom? base cs 0

/-- An unsigned numeral below `limit`. -/
def readNat? (limit : Nat) (cs : List Char) : Option Nat :=
  let magnitude := match cs with
    | '+' :: rest => rest
    | _ => cs
  (digits? 10 magnitude).filter (· < limit)

/-- A signed numeral between `low` and `high`, both included. -/
def readInt? (low high : Int) (cs : List Char) : Option Int :=
  let value := match cs with
    | '+' :: rest => (digits? 10 rest).map Int.ofNat
    | '-' :: rest => (digits? 10 rest).map fun n => -(n : Int)
    | _ => (digits? 10 cs).map Int.ofNat
  value.filter fun n => low ≤ n && n ≤ high

/-- The decimal digits of a number, padded on the left with zeros to the width. -/
def paddedDigits (width n : Nat) : List Char :=
  let digits := Nat.toDigits 10 n
  List.replicate (width - digits.length) '0' ++ digits

end PacedImages.Text
