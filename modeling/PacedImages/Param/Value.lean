import PacedImages.Decimal.Text
import PacedImages.Text.Quoted

/-!
# Parameter values

The values that parameter files and overrides can hold. The fields of a map stand in the order of
their names and no name occurs twice; `Value.ofFields` establishes that, the last value of a name
winning. A value has one compact text, and a short description for reports.
-/

namespace PacedImages

inductive Value where
  | null
  | bool (b : Bool)
  | int (n : Int)
  | real (x : Float)
  | text (s : String)
  | list (items : List Value)
  | map (fields : List (String × Value))
deriving Inhabited

namespace Value

/-- The fields with the name set to the value, kept in the order of names. -/
def setField (name : String) (value : Value) : List (String × Value) → List (String × Value)
  | [] => [(name, value)]
  | (other, v) :: rest =>
    match compare name other with
    | .lt => (name, value) :: (other, v) :: rest
    | .eq => (name, value) :: rest
    | .gt => (other, v) :: setField name value rest

/-- A map from pairs in any order; of two values of one name the later one stays. -/
def ofFields (pairs : List (String × Value)) : Value :=
  .map (pairs.foldl (fun fields pair => setField pair.1 pair.2 fields) [])

def isNull : Value → Bool
  | .null => true
  | _ => false

/-- The fields of a map. -/
def fields? : Value → Option (List (String × Value))
  | .map fields => some fields
  | _ => none

mutual

/-- Equality of values, numbers by their type and value: `1` and `1.0` differ, `0.0` and `-0.0` do not. -/
def same : Value → Value → Bool
  | .null, .null => true
  | .bool a, .bool b => a == b
  | .int a, .int b => a == b
  | .real a, .real b => a == b
  | .text a, .text b => a == b
  | .list as, .list bs => sameItems as bs
  | .map as, .map bs => sameFields as bs
  | _, _ => false

def sameItems : List Value → List Value → Bool
  | [], [] => true
  | a :: as, b :: bs => same a b && sameItems as bs
  | _, _ => false

def sameFields : List (String × Value) → List (String × Value) → Bool
  | [], [] => true
  | (m, a) :: as, (n, b) :: bs => m == n && same a b && sameFields as bs
  | _, _ => false

end

instance : BEq Value := ⟨same⟩

/-- A character inside the quotes of a text. -/
def escapedChar (c : Char) : List Char :=
  match c with
  | '"' => ['\\', '"']
  | '\\' => ['\\', '\\']
  | '\x08' => ['\\', 'b']
  | '\x0c' => ['\\', 'f']
  | '\n' => ['\\', 'n']
  | '\r' => ['\\', 'r']
  | '\t' => ['\\', 't']
  | c =>
    if c.toNat < 0x20 then
      let digits := Nat.toDigits 16 c.toNat
      ['\\', 'u'] ++ List.replicate (4 - digits.length) '0' ++ digits
    else [c]

def writeText (s : String) : List Char :=
  '"' :: s.toList.flatMap escapedChar ++ ['"']

mutual

/-- The characters of the compact text. -/
def write : Value → List Char
  | .null => ['n', 'u', 'l', 'l']
  | .bool true => ['t', 'r', 'u', 'e']
  | .bool false => ['f', 'a', 'l', 's', 'e']
  | .int n => (toString n).toList
  | .real x => (Decimal.Style.parameter.write x).toList
  | .text s => writeText s
  | .list items => '[' :: writeItems items
  | .map fields => '\x7b' :: writeFields fields

/-- The items of a list and its closing bracket. -/
def writeItems : List Value → List Char
  | [] => [']']
  | [item] => write item ++ [']']
  | item :: rest => write item ++ ',' :: writeItems rest

/-- The fields of a map and its closing brace. -/
def writeFields : List (String × Value) → List Char
  | [] => ['\x7d']
  | [(name, value)] => writeText name ++ ':' :: write value ++ ['\x7d']
  | (name, value) :: rest => writeText name ++ ':' :: write value ++ ',' :: writeFields rest

end

/-- The compact text of a value, without blanks. -/
def compact (v : Value) : String :=
  String.ofList v.write

/-- What a report calls the value. -/
def describe : Value → String
  | .null => "null"
  | .bool b => s!"boolean `{b}`"
  | .int n => s!"integer `{n}`"
  | .real x => s!"floating point `{Decimal.Style.parameter.write x}`"
  | .text s => s!"string {Text.quoted s}"
  | .list _ => "sequence"
  | .map _ => "map"

end Value

end PacedImages
