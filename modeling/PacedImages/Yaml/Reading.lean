import PacedImages.Param.Assignment
import PacedImages.Yaml.Document
import PacedImages.Yaml.ScalarValue

/-!
# Reading a document

A document is read to a value event by event, an alias being read as the node that it refers to, and
the text of a scalar as the name of a field. Collections nest to a limit, and the number of aliases
followed is bounded by the length of the document, so that a short text cannot stand for an enormous
value. What is wrong with a value is reported before a fault that comes later in the text.
-/

namespace PacedImages.Yaml

/-- How many aliases may be followed for each event of the document. -/
def aliasesPerEvent : Nat := 100

/-- The next event, and how many aliases may still be followed. -/
structure ValueReading where
  position : Nat
  aliases : Nat

abbrev ValueReader := StateT ValueReading Scan

/-- Where in a document a node stands. -/
inductive Path where
  | root
  | item (parent : Path) (index : Nat)
  | field (parent : Path) (name : String)
  /-- The value of a field whose name an alias stands for. -/
  | unnamed (parent : Path)

/-- A path in words, the document itself being a point. -/
def Path.text : Path → String
  | .root => "."
  | .item parent index => s!"{parent.text}[{index}]"
  | .field .root name => name
  | .field parent name => s!"{parent.text}.{name}"
  | .unnamed .root => "?"
  | .unnamed parent => s!"{parent.text}.?"

namespace Document

/-- The fault behind the last event. -/
def ending (d : Document) : Fault := d.fault.getD ⟨.contentMissing, .unknown, none⟩

def peek (d : Document) : ValueReader Event := do
  match d.events[(← get).position]? with
  | some event => return event
  | none => throw d.ending

def skip : ValueReader Unit := modify fun r => { r with position := r.position + 1 }

/-- Reads at the node of an anchor, then goes on where the alias stands. -/
def follow (d : Document) (anchor : Nat) (read : ValueReader α) : ValueReader α := do
  match (← get).aliases, d.starts.lookup anchor with
  | left + 1, some start =>
    let back := (← get).position
    set (⟨start, left⟩ : ValueReading)
    let found ← read
    modify fun r => { r with position := back }
    return found
  | _, _ => throw ⟨.tooManyAliases, .unknown, none⟩

/-- A value of the path and place that is not taken. -/
def unfit (path : Path) (reason : String) (mark : Mark) : ValueReader α :=
  throw ⟨.unfit path.text reason, .spot mark, none⟩

/-- The name of a field in the map at the path, the expected kind of node being given in words. -/
def fieldNameAt (d : Document) (path : Path) (expected : String) (event : Event) :
    ValueReader String := do
  match event.kind with
  | .scalar _ text _ => return text
  | .listStart _ => unfit path s!"invalid type: sequence, expected {expected}" event.mark
  | .mapStart _ => unfit path s!"invalid type: map, expected {expected}" event.mark
  | _ => throw d.ending

/-- The name of the next field; a map is known for what it is by the first. -/
def fieldName (d : Document) (path : Path) (first : Bool) : ValueReader String := do
  let expected := if first then "a string key" else "a string"
  let event ← d.peek
  skip
  match event.kind with
  | .alias anchor => d.follow anchor do d.fieldNameAt path expected (← d.peek)
  | _ => d.fieldNameAt path expected event

/-- The items of a list up to its end, the next of them having the given index. -/
def items (d : Document) (path : Path) (value : Path → ValueReader Value) :
    Nat → Nat → List Value → ValueReader (List Value)
  | 0, _, _ => throw d.ending
  | fuel + 1, index, acc => do
    match (← d.peek).kind with
    | .listEnd =>
      skip
      return acc.reverse
    | _ =>
      let item ← value (path.item index)
      items d path value fuel (index + 1) (item :: acc)

/-- The path of the value of a field whose name is read next; an alias does not show its name. -/
def valuePath (d : Document) (path : Path) : ValueReader (String → Path) := do
  match (← d.peek).kind with
  | .alias _ => return fun _ => path.unnamed
  | _ => return path.field

/-- The fields of a map up to its end. -/
def fields (d : Document) (path : Path) (value : Path → ValueReader Value) :
    Nat → List (String × Value) → ValueReader (List (String × Value))
  | 0, _ => throw d.ending
  | fuel + 1, acc => do
    match (← d.peek).kind with
    | .mapEnd =>
      skip
      return acc.reverse
    | _ =>
      let below ← d.valuePath path
      let name ← d.fieldName path acc.isEmpty
      let v ← value (below name)
      fields d path value fuel ((name, v) :: acc)

/-- What a reader of values says of a tag of the document's own. -/
def refuseCustom (path : Path) (tag : Tag) (mark : Mark) : ValueReader Unit := do
  if TagKind.ofTag tag == .custom then unfit path ScalarFault.custom.message mark

/-- The value of the node at an event, with collections to the given depth inside of it. -/
def valueAt (d : Document) (depth : Nat) (path : Path) (event : Event) : ValueReader Value := do
  let fuel := d.events.size + 1
  match event.kind with
  | .scalar tag text plain =>
    match scalarValue (.ofTag tag) text plain with
    | .ok v => return v
    | .error f => unfit path f.message event.mark
  | .listStart tag =>
    refuseCustom path tag event.mark
    match depth with
    | 0 => throw ⟨.tooDeep, .spot event.mark, none⟩
    | depth + 1 =>
      return .list (← d.items path (nodeValue depth) fuel 0 [])
  | .mapStart tag =>
    refuseCustom path tag event.mark
    match depth with
    | 0 => throw ⟨.tooDeep, .spot event.mark, none⟩
    | depth + 1 =>
      return .ofFields (← d.fields path (nodeValue depth) fuel [])
  | _ => throw d.ending
where
  /-- The value of the next node, an alias being followed. -/
  nodeValue (depth : Nat) (path : Path) : ValueReader Value := do
    let event ← d.peek
    skip
    match event.kind with
    | .alias anchor =>
      d.follow anchor do
        let target ← d.peek
        skip
        d.valueAt depth path target
    | _ => d.valueAt depth path event

/-- The value of a document; a stream without one is null. -/
def value (d : Document) : Scan Value := do
  if d.events.isEmpty && d.fault.isNone then return .null
  let read := valueAt.nodeValue d maxDepth .root
  let (v, _) ← read.run ⟨0, aliasesPerEvent * d.events.size⟩
  match d.fault with
  | some f => throw f
  | none =>
    if d.followed then throw ⟨.secondDocument, .unknown, none⟩
    return v

end Document

/-- The value that a text stands for, or a report of what is wrong with the text. -/
def readDocument : DocumentReader := fun text =>
  (Document.ofText text).value.mapError Fault.message

end PacedImages.Yaml
