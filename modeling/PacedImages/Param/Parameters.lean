import PacedImages.Param.Error
import Std.Data.ExtTreeMap

/-!
# Parameter sets

A finite map from names to values. A null value is an entry: it counts, it is selected, and in a
merge it hides the value below it. To a lookup it looks absent. Two sets with the same entries are
equal.
-/

namespace PacedImages

structure Parameters where
  entries : Std.ExtTreeMap String Value

namespace Parameters

def empty : Parameters := ⟨∅⟩

instance : EmptyCollection Parameters := ⟨empty⟩

/-- The set with the pairs as entries; of two pairs with one name the later one stays. -/
def ofList (pairs : List (String × Value)) : Parameters :=
  ⟨(∅ : Std.ExtTreeMap String Value).insertMany pairs⟩

def toList (p : Parameters) : List (String × Value) := p.entries.toList

def insert (p : Parameters) (name : String) (value : Value) : Parameters :=
  ⟨p.entries.insert name value⟩

/-- The value of a name, null counting as absent. -/
def get? (p : Parameters) (name : String) : Option Value :=
  p.entries[name]?.filter fun v => !v.isNull

def contains (p : Parameters) (name : String) : Bool := (p.get? name).isSome

/-- The number of entries, those with null included. -/
def size (p : Parameters) : Nat := p.entries.size

def isEmpty (p : Parameters) : Bool := p.entries.isEmpty

/-- The entries with one of the names. -/
def select (p : Parameters) (names : List String) : Parameters :=
  ⟨p.entries.filter fun name _ => names.contains name⟩

/-- The entries of both sets, those of the second one where both have the name. -/
def merge (p q : Parameters) : Parameters := ⟨p.entries ∪ q.entries⟩

/-- The value of a name read by its kind, none if it is absent. -/
def getOpt (p : Parameters) (reader : Reader α) (name : String) : Except ParamError (Option α) :=
  match p.get? name with
  | none => .ok none
  | some v =>
    match reader.read v with
    | .ok a => .ok (some a)
    | .error mismatch => .error (.wrongType (.parameter name mismatch))

/-- The value of a name read by its kind, or the default if it is absent. -/
def getOr (p : Parameters) (reader : Reader α) (name : String) (default : α) :
    Except ParamError α :=
  return (← p.getOpt reader name).getD default

/-- Equality of sets, entry by entry. -/
def same (p q : Parameters) : Bool := Value.sameFields p.toList q.toList

theorem ext_entries {p q : Parameters} (h : ∀ name : String, p.entries[name]? = q.entries[name]?) :
    p = q := by
  cases p; cases q
  exact congrArg Parameters.mk (Std.ExtTreeMap.ext_getElem? h)

@[simp] theorem getElem?_entries_empty (name : String) :
    (∅ : Parameters).entries[name]? = none := by
  show (∅ : Std.ExtTreeMap String Value)[name]? = none
  simp

@[simp] theorem getElem?_entries_insert (p : Parameters) (n name : String) (v : Value) :
    (p.insert n v).entries[name]? = if n = name then some v else p.entries[name]? := by
  simp [insert, Std.ExtTreeMap.getElem?_insert, Std.LawfulEqCmp.compare_eq_iff_eq]

@[simp] theorem getElem?_entries_select (p : Parameters) (names : List String) (name : String) :
    (p.select names).entries[name]? = if name ∈ names then p.entries[name]? else none := by
  simp only [select, Std.ExtTreeMap.getElem?_filter']
  by_cases h : name ∈ names <;> cases p.entries[name]? <;> simp [h]

@[simp] theorem getElem?_entries_merge (p q : Parameters) (name : String) :
    (p.merge q).entries[name]? = q.entries[name]?.or p.entries[name]? :=
  Std.ExtTreeMap.getElem?_union

end Parameters

end PacedImages
