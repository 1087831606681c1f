import PacedImages.Decimal.Read
import PacedImages.Param.Value

/-!
# Values of scalars

What a scalar stands for. A plain scalar is null, a boolean, an integer or a number if it reads as
one, in that order, and otherwise the text itself; any other scalar is its text. The tags of those
four kinds demand the kind. An integer beyond 64 bits that fits into 128 has no value; a longer
one is read as a number.
-/

namespace PacedImages.Yaml

/-- What the tag of a node asks for. -/
inductive TagKind where
  | none
  | bool
  | int
  | real
  | null
  /-- A tag of the document's own, which no value can carry. -/
  | custom
  /-- Any other tag, which makes a scalar a text. -/
  | other
deriving Repr, DecidableEq

/-- The bytes of a tag of the four kinds. -/
def coreTag (name : String) : List UInt8 :=
  s!"tag:yaml.org,2002:{name}".toUTF8.toList

def TagKind.ofTag : Option (List UInt8) → TagKind
  | Option.none => .none
  | some tag =>
    match tag with
    | 0x21 :: rest => if (String.fromUTF8? (ByteArray.mk rest.toArray)).isSome then .custom else .none
    | _ =>
      if tag == coreTag "bool" then .bool
      else if tag == coreTag "int" then .int
      else if tag == coreTag "float" then .real
      else if tag == coreTag "null" then .null
      else .other

def isNullText (text : String) : Bool :=
  ["null", "Null", "NULL", "~"].contains text

def boolOf? (text : String) : Option Bool :=
  if ["true", "True", "TRUE"].contains text then some true
  else if ["false", "False", "FALSE"].contains text then some false
  else none

/-- Whether the digits start with a zero that no number has. -/
def hasSpareZero (cs : List Char) : Bool :=
  let magnitude := match cs with
    | '-' :: rest | '+' :: rest => rest
    | _ => cs
  match magnitude with
  | '0' :: digit :: rest => (digit :: rest).all Char.isDigit
  | _ => false

/-- A magnitude in base 16, 8 or 2 behind its mark, or in base 10. -/
def magnitude? : List Char → Option Nat
  | '0' :: 'x' :: rest => Text.digits? 16 rest
  | '0' :: 'o' :: rest => Text.digits? 8 rest
  | '0' :: 'b' :: rest => Text.digits? 2 rest
  | cs => if hasSpareZero cs then none else Text.digits? 10 cs

/-- An integer of any size. -/
def integer? : List Char → Option Int
  | '-' :: rest => (magnitude? rest).map fun n => -(n : Int)
  | '+' :: rest => (magnitude? rest).map Int.ofNat
  | cs => (magnitude? cs).map Int.ofNat

/-- What the digits of an integer stand for. -/
inductive IntegerText where
  | value (n : Int)
  /-- An integer that no value holds. -/
  | unheld
  /-- No integer, or one beyond 128 bits. -/
  | other

def integerText (cs : List Char) : IntegerText :=
  match integer? cs with
  | none => .other
  | some n =>
    if -0x8000000000000000 ≤ n ∧ n < 0x10000000000000000 then .value n
    else if -0x80000000000000000000000000000000 ≤ n ∧ n < 0x100000000000000000000000000000000 then .unheld
    else .other

/-- What is wrong with a scalar that has no value. -/
inductive ScalarFault where
  | unheld
  | custom
  | notBool (text : String)
  | notInt (text : String)
  | notReal (text : String)
  | notNull (text : String)

def ScalarFault.message : ScalarFault → String
  | .unheld => "JSON number out of range"
  | .custom => "invalid type: enum, expected any valid JSON value"
  | .notBool text => s!"invalid value: string {Text.quoted text}, expected a boolean"
  | .notInt text => s!"invalid value: string {Text.quoted text}, expected an integer"
  | .notReal text => s!"invalid value: string {Text.quoted text}, expected a float"
  | .notNull text => s!"invalid value: string {Text.quoted text}, expected null"

/-- A number; the infinities and what is no number stand for null. -/
def realValue? (text : String) : Option Value :=
  let cs := text.toList
  let unsigned := match cs with
    | '+' :: rest => rest
    | _ => cs
  if [".inf", ".Inf", ".INF"].contains (String.ofList unsigned) then some .null
  else if ["-.inf", "-.Inf", "-.INF", ".nan", ".NaN", ".NAN"].contains text then some .null
  else if cs.head? == some '+' && unsigned.head?.any (fun c => c == '+' || c == '-') then none
  else (Decimal.readFloat? unsigned).map .real

/-- The value of a plain scalar without a tag. -/
def plainValue (text : String) : Except ScalarFault Value :=
  if text.isEmpty || isNullText text then .ok .null
  else match boolOf? text with
    | some b => .ok (.bool b)
    | none =>
      match integerText text.toList with
      | .value n => .ok (.int n)
      | .unheld => .error .unheld
      | .other =>
        if hasSpareZero text.toList then .ok (.text text)
        else .ok ((realValue? text).getD (.text text))

/-- The value of a scalar, or why it has none. -/
def scalarValue (tag : TagKind) (text : String) (plain : Bool) : Except ScalarFault Value :=
  match tag with
  | .none => if plain then plainValue text else .ok (.text text)
  | .bool =>
    match boolOf? text with
    | some b => .ok (.bool b)
    | none => .error (.notBool text)
  | .int =>
    match integerText text.toList with
    | .value n => .ok (.int n)
    | .unheld => .error .unheld
    | .other => .error (.notInt text)
  | .real =>
    match realValue? text with
    | some v => .ok v
    | none => .error (.notReal text)
  | .null => if isNullText text then .ok .null else .error (.notNull text)
  | .custom => .error .custom
  | .other => .ok (.text text)

end PacedImages.Yaml
