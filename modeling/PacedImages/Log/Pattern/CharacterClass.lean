import PacedImages.Log.Pattern.Escape

/-!
# Character classes of patterns

A class is a list of characters, ranges, sets and classes between brackets, and operators between
such lists. All that is kept of a class that can be read is how deep it nests.
-/

namespace PacedImages.Pattern

/-- A class that is still open: how the operands in front of its last operator nest, if it has any,
and how its items behind it do. -/
structure OpenClass where
  left : Option Nat
  items : List Nat

namespace OpenClass

def add (c : OpenClass) (nesting : Nat) : OpenClass := { c with items := nesting :: c.items }

def nesting (c : OpenClass) : Nat :=
  let right := sequenceNesting c.items
  match c.left with
  | none => right
  | some left => max left right + 1

/-- The class behind an operator. -/
def combine (c : OpenClass) : OpenClass := ⟨some c.nesting, []⟩

end OpenClass

/-- A character or a set in a class. -/
def item? (m : Modes) : List Char → Option (Item × List Char)
  | [] => none
  | c :: rest => do
    let (item, rest) ← if c == '\\' then escape? m rest else some (.char c, rest)
    match item with
    | .char c => if m.canMean c then some (item, rest) else none
    | .set => some (item, rest)
    | .edge => none

def classNames : List String :=
  ["alnum", "alpha", "ascii", "blank", "cntrl", "digit", "graph", "lower", "print", "punct", "space",
    "upper", "word", "xdigit"]

/-- Past a class given by its name between colons, and whether that is negated. -/
def namedClass? : List Char → Option (Bool × List Char)
  | ':' :: rest =>
    let (negated, rest) := match rest with
      | '^' :: rest => (true, rest)
      | _ => (false, rest)
    let name := rest.takeWhile (· != ':')
    match rest.drop name.length with
    | ':' :: ']' :: rest =>
      if classNames.contains (String.ofList name) then some (negated, rest) else none
    | _ => none
  | _ => none

/-- Past the minus signs at the start of a class, which stand for themselves. -/
def leadingSigns (m : Modes) : Nat → OpenClass → List Char → OpenClass × List Char
  | fuel + 1, c, '-' :: rest => leadingSigns m fuel (c.add 0) (m.skipGap rest)
  | _, c, cs => (c, cs)

/-- A class that opens here, behind its bracket. One closing bracket in front of everything stands
for itself. -/
def openClass? (m : Modes) (cs : List Char) : Option (OpenClass × List Char) :=
  let start (cs : List Char) : OpenClass × List Char :=
    match m.skipGap cs with
    | ']' :: rest => (⟨none, [0]⟩, m.skipGap rest)
    | cs => leadingSigns m cs.length ⟨none, []⟩ cs
  match m.skipGap cs with
  | '^' :: rest => if m.bytewise then none else some (start rest)
  | cs => some (start cs)

/-- Past a character, a set or a range of characters. -/
def range? (m : Modes) (cs : List Char) : Option (List Char) := do
  let (low, rest) ← item? m cs
  match m.skipGap rest with
  | [] => none
  | '-' :: after =>
    if [some ']', some '-'].contains (m.lookAhead after) then some ('-' :: after)
    else
      let (high, rest) ← item? m (m.skipGap after)
      match low, high with
      | .char low, .char high => if low ≤ high then some rest else none
      | _, _ => none
  | rest => some rest

/-- Past the end of an open class within others, and how the outermost one nests. -/
def closeClass? (m : Modes) :
    Nat → OpenClass → List OpenClass → List Char → Option (Nat × List Char)
  | 0, _, _, _ => none
  | fuel + 1, c, outer, cs =>
    match m.skipGap cs with
    | [] => none
    | '[' :: rest =>
      match namedClass? rest with
      | some (negated, rest) =>
        if negated && m.bytewise then none else closeClass? m fuel (c.add 0) outer rest
      | none =>
        match openClass? m rest with
        | some (inner, rest) => closeClass? m fuel inner (c :: outer) rest
        | none => none
    | ']' :: rest =>
      match outer with
      | [] => some (c.nesting + 1, rest)
      | around :: outer => closeClass? m fuel (around.add (c.nesting + 1)) outer rest
    | '&' :: '&' :: rest | '-' :: '-' :: rest | '~' :: '~' :: rest =>
      closeClass? m fuel c.combine outer rest
    | cs =>
      match range? m cs with
      | some rest => closeClass? m fuel (c.add 0) outer rest
      | none => none

/-- Past a class whose bracket was just read, and how it nests. -/
def afterClass? (m : Modes) (cs : List Char) : Option (Nat × List Char) := do
  let (c, rest) ← openClass? m cs
  closeClass? m (rest.length + 1) c [] rest

end PacedImages.Pattern
