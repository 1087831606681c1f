import PacedImages.Param.Value

/-!
# Kinds of parameters

A kind says which values a parameter takes. Numbers do not change their type: a floating-point
number is no integer, whatever its value. A value that does not fit gives a `Mismatch`, whose text
tells a number out of range from a value of another type.
-/

namespace PacedImages

/-- Words are unsigned. -/
inductive Kind where
  | word32
  | word64
  | int64
  | flag
  | text
deriving Repr, DecidableEq

/-- What the kind is called in a report. -/
def Kind.name : Kind → String
  | .word32 => "u32"
  | .word64 => "u64"
  | .int64 => "i64"
  | .flag => "a boolean"
  | .text => "a string"

/-- Whether a kind holds integers at all. -/
def Kind.isNumeric : Kind → Bool
  | .word32 | .word64 | .int64 => true
  | .flag | .text => false

/-- A value found where another kind was expected. -/
structure Mismatch where
  found : Value
  expected : Kind

def Mismatch.message (m : Mismatch) : String :=
  match m.found, m.expected.isNumeric with
  | .int n, true => s!"invalid value: integer `{n}`, expected {m.expected.name}"
  | v, _ => s!"invalid type: {v.describe}, expected {m.expected.name}"

/-- A kind together with the Lean values that its parameters denote. -/
structure Reader (α : Type) where
  kind : Kind
  read? : Value → Option α

/-- An integer of the range as `α`. -/
private def integer? (low high : Int) (make : Int → α) : Value → Option α
  | .int n => if low ≤ n ∧ n ≤ high then some (make n) else none
  | _ => none

namespace Reader

def word32 : Reader UInt32 :=
  ⟨.word32, integer? 0 0xFFFFFFFF fun n => UInt32.ofNat n.toNat⟩

def word64 : Reader UInt64 :=
  ⟨.word64, integer? 0 0xFFFFFFFFFFFFFFFF fun n => UInt64.ofNat n.toNat⟩

def int64 : Reader Int :=
  ⟨.int64, integer? (-0x8000000000000000) 0x7FFFFFFFFFFFFFFF id⟩

def flag : Reader Bool :=
  ⟨.flag, fun | .bool b => some b | _ => none⟩

def text : Reader String :=
  ⟨.text, fun | .text s => some s | _ => none⟩

/-- The value as the kind reads it, or what is wrong with it. -/
def read (r : Reader α) (v : Value) : Except Mismatch α :=
  match r.read? v with
  | some a => .ok a
  | none => .error ⟨v, r.kind⟩

end Reader

end PacedImages
