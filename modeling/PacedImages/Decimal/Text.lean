import PacedImages.Decimal.Shortest

/-!
# Decimal text of binary64 numbers

The digits are those of the shortest decimal; a `Style` decides how they are laid out. The two
styles of this library are the text of a parameter value and the text of a metric.
-/

namespace PacedImages.Decimal

/-- The decisions of a format for floating-point text. -/
structure Style where
  /-- Whether a number with this exponent of its leading digit is written without an exponent. -/
  positional : Int → Bool
  /-- What follows the digits of a whole number. -/
  whole : List Char
  /-- What stands before the digits of an exponent that is not negative. -/
  plus : List Char
  tie : Tie

/-- Parameter values: positional from 1e-5 up to 1e16, always with a point there. -/
def Style.parameter : Style := ⟨fun e => -5 ≤ e && e < 16, ['.', '0'], ['+'], .even⟩

/-- Metrics: positional throughout, and a whole number has no point. -/
def Style.metric : Style := ⟨fun _ => true, [], [], .up⟩

/-- The weight of the bit in front of the fraction, which encodings leave out. -/
def hiddenBit : Nat := 0x10000000000000

/-- The encoding of infinity, above which there is no number. -/
def infinityBits : Nat := 0x7FF0000000000000

/-- The weight of the sign in an encoding. -/
def signBit : Nat := 0x8000000000000000

/-- The magnitude of a finite number that is not zero, from the bits of its encoding. -/
def Rounding.ofBits (bits : Nat) : Rounding :=
  let fraction := bits % hiddenBit
  let biased := bits / hiddenBit
  if biased = 0 then .ofBinary fraction (-1074) false
  else .ofBinary (hiddenBit + fraction) (Int.ofNat biased - 1075) (fraction = 0 && 1 < biased)

/-- The digits laid out with the leading one at the given exponent of ten. -/
def Style.layOut (style : Style) (digits : List Char) (leading : Int) : List Char :=
  if style.positional leading then
    if leading < 0 then
      ['0', '.'] ++ List.replicate ((-leading).toNat - 1) '0' ++ digits
    else
      let places := leading.toNat + 1
      if digits.length ≤ places then
        digits ++ List.replicate (places - digits.length) '0' ++ style.whole
      else digits.take places ++ ['.'] ++ digits.drop places
  else
    let mantissa := match digits with
      | first :: second :: rest => first :: '.' :: second :: rest
      | _ => digits
    let sign := if leading < 0 then ['-'] else style.plus
    mantissa ++ ['e'] ++ sign ++ Nat.toDigits 10 leading.natAbs

/-- The text of a number in a style. -/
def Style.write (style : Style) (x : Float) : String :=
  let bits := x.toBits.toNat
  let magnitude := bits % signBit
  let sign := if bits < signBit then [] else ['-']
  if infinityBits < magnitude then "NaN"
  else if magnitude = infinityBits then String.ofList (sign ++ ['i', 'n', 'f'])
  else if magnitude = 0 then String.ofList (sign ++ ['0'] ++ style.whole)
  else
    let d := (Rounding.ofBits magnitude).shortest style.tie
    let digits := Nat.toDigits 10 d.coefficient
    String.ofList (sign ++ style.layOut digits (d.exponent + digits.length - 1))

end PacedImages.Decimal
