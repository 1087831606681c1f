import PacedImages.Decimal.Read
import PacedImages.Param.Value

/-!
# Values from their text

Reading a value from its compact text, in which blanks between the parts do no harm. A number with a
point or an exponent is a floating-point number, any other an integer, so the two stay apart.
-/

namespace PacedImages.Value

def skipBlanks (cs : List Char) : List Char := cs.dropWhile Char.isWhitespace

/-- The character of four hexadecimal digits, or of eight that stand in two groups. -/
def readCode? : List Char → Option (Char × List Char)
  | a :: b :: c :: d :: rest => do
    let high ← Text.digits? 16 [a, b, c, d]
    match rest with
    | '\\' :: 'u' :: e :: f :: g :: h :: after =>
      let low ← Text.digits? 16 [e, f, g, h]
      if 0xD800 ≤ high ∧ high < 0xDC00 ∧ 0xDC00 ≤ low ∧ low < 0xE000 then
        return (Char.ofNat (0x10000 + (high - 0xD800) * 0x400 + (low - 0xDC00)), after)
      else return (Char.ofNat high, rest)
    | _ => return (Char.ofNat high, rest)
  | _ => none

/-- The text up to its closing quote, behind `acc`, which is reversed. -/
def readQuoted? : Nat → List Char → List Char → Option (String × List Char)
  | 0, _, _ => none
  | fuel + 1, acc, cs =>
    match cs with
    | '"' :: rest => some (String.ofList acc.reverse, rest)
    | '\\' :: 'u' :: rest =>
      match readCode? rest with
      | some (c, rest) => readQuoted? fuel (c :: acc) rest
      | none => none
    | '\\' :: x :: rest =>
      let c := match x with
        | 'n' => '\n'
        | 't' => '\t'
        | 'r' => '\r'
        | 'b' => '\x08'
        | 'f' => '\x0c'
        | x => x
      readQuoted? fuel (c :: acc) rest
    | x :: rest => readQuoted? fuel (x :: acc) rest
    | [] => none

def isNumberChar (c : Char) : Bool := c.isDigit || ['+', '-', '.', 'e', 'E'].contains c

/-- The number that a text starts with. -/
def readNumber? (cs : List Char) : Option (Value × List Char) :=
  let digits := cs.takeWhile isNumberChar
  let rest := cs.drop digits.length
  if digits.any fun c => c == '.' || c == 'e' || c == 'E' then
    (Decimal.readFloat? digits).map fun x => (.real x, rest)
  else (Text.readInt? (-0x8000000000000000) 0xFFFFFFFFFFFFFFFF digits).map fun n => (.int n, rest)

/-- Entries with commas between them, up to the closing mark. -/
def readEntries? (entry : List Char → Option (α × List Char)) (close : Char) :
    Nat → List α → List Char → Option (List α × List Char)
  | 0, _, _ => none
  | fuel + 1, acc, cs =>
    match entry cs with
    | none => none
    | some (a, rest) =>
      match skipBlanks rest with
      | ',' :: rest => readEntries? entry close fuel (a :: acc) rest
      | c :: rest => if c == close then some ((a :: acc).reverse, rest) else none
      | [] => none

/-- A name, a colon and a value. -/
def readField? (read? : List Char → Option (Value × List Char)) (fuel : Nat) (cs : List Char) :
    Option ((String × Value) × List Char) :=
  match skipBlanks cs with
  | '"' :: rest => do
    let (name, rest) ← readQuoted? fuel [] rest
    match skipBlanks rest with
    | ':' :: rest =>
      let (v, rest) ← read? rest
      return ((name, v), rest)
    | _ => none
  | _ => none

/-- The value that a text starts with; the fuel bounds the depth and the length of its parts. -/
def read? (size : Nat) : Nat → List Char → Option (Value × List Char)
  | 0, _ => none
  | fuel + 1, cs =>
    match skipBlanks cs with
    | '"' :: rest => (readQuoted? size [] rest).map fun (s, rest) => (.text s, rest)
    | '[' :: rest =>
      match skipBlanks rest with
      | ']' :: rest => some (.list [], rest)
      | rest => (readEntries? (read? size fuel) ']' size [] rest).map fun (items, rest) =>
          (.list items, rest)
    | '\x7b' :: rest =>
      match skipBlanks rest with
      | '\x7d' :: rest => some (.map [], rest)
      | rest =>
        (readEntries? (readField? (read? size fuel) size) '\x7d' size [] rest).map
          fun (fields, rest) => (.ofFields fields, rest)
    | 't' :: 'r' :: 'u' :: 'e' :: rest => some (.bool true, rest)
    | 'f' :: 'a' :: 'l' :: 's' :: 'e' :: rest => some (.bool false, rest)
    | 'n' :: 'u' :: 'l' :: 'l' :: rest => some (.null, rest)
    | rest => readNumber? rest

/-- The value of a text, none if it has none or if anything follows. -/
def ofText? (text : String) : Option Value :=
  let cs := text.toList
  match read? (cs.length + 1) (cs.length + 1) cs with
  | some (v, rest) => if (skipBlanks rest).isEmpty then some v else none
  | none => none

end PacedImages.Value
