import PacedImages.Text.Numeral

/-!
# Endpoints

An endpoint is an Internet address with a port. An address of the old kind is four octets in
decimal, without leading zeros; one of the new kind is eight groups in hexadecimal within square
brackets, where `::` stands for one or more groups of zeros and the last two groups may be written
as an address of the old kind, and a zone may follow after a percent sign.
-/

namespace PacedImages

inductive Host where
  /-- Four octets. -/
  | four (octets : List Nat)
  /-- Eight groups, and a zone that is zero where none is given. -/
  | six (groups : List Nat) (zone : Nat)
deriving Repr, DecidableEq

structure Endpoint where
  host : Host
  port : Nat
deriving Repr, DecidableEq

namespace Endpoint

/-! ## Reading -/

/-- A reader takes characters from the front of a text, or fails and takes none. -/
abbrev Reading := StateT (List Char) Option

/-- Takes one given character. -/
def expect (c : Char) : Reading Unit
  | d :: rest => if c = d then some ((), rest) else none
  | [] => none

/-- Takes all digits that there are, as a number below a limit. -/
def number (base limit : Nat) : Reading Nat := fun cs =>
  let isDigit (c : Char) : Bool := (Text.digitValue? base c).isSome
  ((Text.digits? base (cs.takeWhile isDigit)).filter (· < limit)).map fun n =>
    (n, cs.dropWhile isDigit)

/-- A decimal number below 256 that begins with no idle zero. -/
def octet : Reading Nat
  | '0' :: d :: rest => if d.isDigit then none else some (0, d :: rest)
  | cs => number 10 UInt8.size cs

def octets : Reading (List Nat) := do
  let a ← octet
  expect '.'
  let b ← octet
  expect '.'
  let c ← octet
  expect '.'
  return [a, b, c, ← octet]

/-- A hexadecimal number in at most four digits. -/
def group : Reading Nat := fun cs =>
  let digits := cs.takeWhile fun c => (Text.digitValue? 16 c).isSome
  if 4 < digits.length then none else number 16 UInt16.size cs

/-- Two groups from every four octets. -/
def paired : List Nat → List Nat
  | high :: low :: rest => (high * 256 + low) :: paired rest
  | _ => []

/-- Reads at the first place, or after a colon at any other. -/
def placed (first : Bool) (read : Reading α) : Reading α := do
  unless first do expect ':'
  read

/-- As many groups as there are and as there is room for, whether octets ended them, and the
characters after them. -/
def groups : Nat → Bool → List Char → List Nat × Bool × List Char
  | 0, _, cs => ([], false, cs)
  | room + 1, first, cs =>
    match if room = 0 then none else placed first octets cs with
    | some (four, cs) => (paired four, true, cs)
    | none =>
      match placed first group cs with
      | some (g, cs) =>
        let (more, ended, cs) := groups room false cs
        (g :: more, ended, cs)
      | none => ([], false, cs)

/-- Eight groups, or fewer around a gap of zeros. -/
def allGroups : Reading (List Nat) := fun cs =>
  let (head, ended, cs) := groups 8 true cs
  if head.length = 8 then some (head, cs)
  else if ended then none
  else match cs with
    | ':' :: ':' :: cs =>
      let (tail, _, cs) := groups (7 - head.length) true cs
      some (head ++ List.replicate (8 - head.length - tail.length) 0 ++ tail, cs)
    | _ => none

/-- A zone, zero if there is none. -/
def zone : Reading Nat := (do expect '%'; number 10 UInt32.size) <|> pure 0

def bracketed : Reading Host := do
  expect '['
  let groups ← allGroups
  let zone ← zone
  expect ']'
  return .six groups zone

def reading : Reading Endpoint := do
  let host ← (do return .four (← octets)) <|> bracketed
  expect ':'
  return ⟨host, ← number 10 UInt16.size⟩

/-- The endpoint that a text names. -/
def ofText? (text : String) : Option Endpoint :=
  match reading text.toList with
  | some (e, []) => some e
  | _ => none

/-! ## Writing -/

/-- Numbers with a separator between them. -/
def joined (separator : String) (base : Nat) (numbers : List Nat) : String :=
  separator.intercalate (numbers.map fun n => String.ofList (Nat.toDigits base n))

/-- The length of the run of zeros that a list begins with. -/
def zeros (groups : List Nat) : Nat := (groups.takeWhile (· == 0)).length

/-- Where the longest run of zeros begins, and its length; the first of several. -/
def longestRun (groups : List Nat) : Nat × Nat :=
  (List.range groups.length).foldl (fun best start =>
    let length := zeros (groups.drop start)
    if best.2 < length then (start, length) else best) (0, 0)

def groupText (groups : List Nat) : String :=
  match groups with
  | [0, 0, 0, 0, 0, 0xFFFF, high, low] =>
    "::ffff:" ++ joined "." 10 [high / 256, high % 256, low / 256, low % 256]
  | _ =>
    let (start, length) := longestRun groups
    if 1 < length then
      joined ":" 16 (groups.take start) ++ "::" ++ joined ":" 16 (groups.drop (start + length))
    else joined ":" 16 groups

def hostText : Host → String
  | .four octets => joined "." 10 octets
  | .six groups 0 => s!"[{groupText groups}]"
  | .six groups zone => s!"[{groupText groups}%{zone}]"

/-- The shortest customary text of an endpoint. -/
def text (e : Endpoint) : String := s!"{hostText e.host}:{e.port}"

end Endpoint

end PacedImages
