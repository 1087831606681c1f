import PacedImages.Text.Numeral
import PacedImages.Yaml.Fault

/-!
# Escapes

Characters written by their code: after a backslash in a double-quoted scalar, and after a percent
sign in a tag, where each byte of the character's UTF-8 form is written by itself.
-/

namespace PacedImages.Yaml

/-- The character that a backslash and a letter stand for. -/
def shortEscape? : Char → Option Char
  | '0' => some '\x00'
  | 'a' => some '\x07'
  | 'b' => some '\x08'
  | 't' | '\t' => some '\t'
  | 'n' => some '\n'
  | 'v' => some '\x0b'
  | 'f' => some '\x0c'
  | 'r' => some '\r'
  | 'e' => some '\x1b'
  | ' ' => some ' '
  | '"' => some '"'
  | '/' => some '/'
  | '\\' => some '\\'
  | 'N' => some '\u0085'
  | '_' => some '\u00a0'
  | 'L' => some '\u2028'
  | 'P' => some '\u2029'
  | _ => none

/-- How many hexadecimal digits follow the letter of a numeric escape. -/
def escapeWidth? : Char → Option Nat
  | 'x' => some 2
  | 'u' => some 4
  | 'U' => some 8
  | _ => none

/-- The character of a code point, none for a surrogate or a number beyond the last code point. -/
def charOfCode? (code : Nat) : Option Char :=
  if h : code.isValidChar then some (Char.ofNatAux code h) else none

/-- The number that exactly so many hexadecimal digits write. -/
def codeOfDigits? (width : Nat) (cs : List Char) : Option Nat :=
  let digits := cs.take width
  if digits.length == width then Text.digits? 16 digits else none

/-- The character of an escape in the scalar that starts at `start`, from its backslash on. -/
def scanEscape (start : Mark) (c : Cursor) : Scan (Char × Cursor) := do
  let origin : Origin := ⟨.escape, start⟩
  let letter ← c.demand (c.ahead? 1) .unknownEscape origin
  match escapeWidth? letter with
  | some width =>
    let c := c.skip 2
    let code ← c.demand (codeOfDigits? width c.rest) .escapeDigits origin
    let char ← c.demand (charOfCode? code) .escapeCode origin
    return (char, c.skip width)
  | none =>
    let char ← c.demand (shortEscape? letter) .unknownEscape origin
    return (char, c.skip 2)

/-- A byte written as a percent sign and two hexadecimal digits. -/
def scanByte (origin : Origin) (c : Cursor) : Scan UInt8 := do
  c.expect (c.looksAt (· == '%')) .tagByteMissing origin
  let code ← c.demand (codeOfDigits? 2 c.next.rest) .tagByteMissing origin
  return UInt8.ofNat code

/-- The number of bytes that follow the first byte of a character. -/
def followers? (first : UInt8) : Option Nat :=
  if first < 0x80 then some 0
  else if first < 0xC0 then none
  else if first < 0xE0 then some 1
  else if first < 0xF0 then some 2
  else if first < 0xF8 then some 3
  else none

/-- The given number of bytes, none of them the first byte of a character. -/
def scanFollowers (origin : Origin) : Nat → Cursor → Scan (List UInt8 × Cursor)
  | 0, c => .ok ([], c)
  | n + 1, c => do
    let byte ← scanByte origin c
    c.expect (0x80 ≤ byte && byte < 0xC0) .tagFollowingByte origin
    let (bytes, c) ← scanFollowers origin n (c.skip 3)
    return (byte :: bytes, c)

/-- The bytes of one character, each written after a percent sign. -/
def scanPercent (origin : Origin) (c : Cursor) : Scan (List UInt8 × Cursor) := do
  let first ← scanByte origin c
  let count ← c.demand (followers? first) .tagLeadingByte origin
  let (rest, c) ← scanFollowers origin count (c.skip 3)
  return (first :: rest, c)

end PacedImages.Yaml
