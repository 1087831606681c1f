import PacedImages.Decimal.Read
import PacedImages.Log.Pattern.CharacterClass

/-!
# Value patterns

The value that a filter asks of a field: a number, or a regular expression. Values are compared
within spans alone, and the program opens none, so all that matters of a pattern is whether it can be
read. A pattern that nests too deep cannot. It holds no closing brace and no comma, which end the
field in a filter; hence nothing that takes braces can be read in it.
-/

namespace PacedImages.Pattern

/-- How deep patterns may nest. -/
def nestingLimit : Nat := 250

/-- A group that is still open, or the whole pattern. -/
structure OpenGroup where
  /-- The modes that are in force again behind it. -/
  around : Modes
  /-- How its alternatives nest, the last one apart. -/
  alternatives : List Nat
  /-- How the parts of its last alternative nest, the latest first; `none` stands for flags, which
  cannot be repeated. -/
  parts : List (Option Nat)

namespace OpenGroup

def start (around : Modes) : OpenGroup := ⟨around, [], []⟩

def add (g : OpenGroup) (part : Option Nat) : OpenGroup := { g with parts := part :: g.parts }

/-- How the last alternative nests. -/
def lastNesting (g : OpenGroup) : Nat := sequenceNesting (g.parts.map (·.getD 0))

def nesting (g : OpenGroup) : Nat := sequenceNesting (g.lastNesting :: g.alternatives)

/-- The group behind a bar. -/
def alternate (g : OpenGroup) : OpenGroup :=
  { g with alternatives := g.lastNesting :: g.alternatives, parts := [] }

/-- The group with its last part repeated. -/
def repeatLast? (g : OpenGroup) : Option OpenGroup :=
  match g.parts with
  | some n :: parts => some { g with parts := some (n + 1) :: parts }
  | _ => none

end OpenGroup

/-- Whether flags can be read: each stands once, and behind a minus sign there is one. -/
def isFlags (flags : List Char) : Bool :=
  flags.all ['i', 'm', 's', 'U', 'u', 'R', 'x', '-'].contains &&
    flags.eraseDups.length == flags.length && flags.getLast? != some '-'

/-- Whether a group can have the name. -/
def isGroupName : List Char → Bool
  | [] => false
  | c :: rest =>
    (c == '_' || Text.isAlphabetic c) &&
      rest.all fun c => ['_', '.', '[', ']'].contains c || Text.isAlphanumeric c

/-- What stands between a question mark and the rest of a group. -/
inductive GroupHead where
  | name (name : List Char)
  | flags (flags : List Char)
  /-- Flags without a group, which hold to the end of the one around. -/
  | bareFlags (flags : List Char)

def groupHead? (cs : List Char) : Option (GroupHead × List Char) :=
  let named (rest : List Char) : Option (GroupHead × List Char) :=
    let name := rest.takeWhile (· != '>')
    match rest.drop name.length with
    | _ :: rest => if isGroupName name then some (.name name, rest) else none
    | [] => none
  match cs with
  | 'P' :: '<' :: rest => named rest
  | '<' :: rest => named rest
  | _ =>
    let flags := cs.takeWhile fun c => c != ')' && c != ':'
    match cs.drop flags.length with
    | ':' :: rest => if isFlags flags then some (.flags flags, rest) else none
    | ')' :: rest => if isFlags flags && !flags.isEmpty then some (.bareFlags flags, rest) else none
    | _ => none

/-- The state of a reader of patterns. -/
structure Reader where
  modes : Modes
  group : OpenGroup
  /-- The groups around, the innermost first. -/
  outer : List OpenGroup
  /-- The names of the groups so far. -/
  names : List (List Char)

namespace Reader

def start : Reader := ⟨⟨false, false⟩, .start ⟨false, false⟩, [], []⟩

def add (r : Reader) (nesting : Nat) : Reader := { r with group := r.group.add (some nesting) }

/-- A group opens, with modes of its own. -/
def enterGroup (r : Reader) (modes : Modes) : Reader :=
  { r with modes, group := .start r.modes, outer := r.group :: r.outer }

def closeGroup? (r : Reader) : Option Reader :=
  match r.outer with
  | around :: outer =>
    some { r with
      modes := r.group.around
      group := around.add (some (r.group.nesting + 1))
      outer }
  | [] => none

/-- The reader behind the start of a group. -/
def enter? (r : Reader) (head : GroupHead) : Option Reader :=
  match head with
  | .name name =>
    if r.names.contains name then none
    else some ({ r with names := name :: r.names }.enterGroup r.modes)
  | .flags flags => some (r.enterGroup (r.modes.apply flags))
  | .bareFlags flags => some { r with modes := r.modes.apply flags, group := r.group.add none }

/-- Behind a sign of repetition, which a question mark may follow. -/
def repeatLast? (r : Reader) (rest : List Char) : Option (Reader × List Char) :=
  let rest := match rest with
    | '?' :: rest => rest
    | _ => rest
  r.group.repeatLast?.map fun group => ({ r with group }, rest)

/-- One part on, from a character. -/
def next? (r : Reader) (c : Char) (rest : List Char) : Option (Reader × List Char) :=
  match c with
  | '\\' => (escape? r.modes rest).map fun (_, rest) => (r.add 0, rest)
  | '[' => (afterClass? r.modes rest).map fun (nesting, rest) => (r.add nesting, rest)
  | '(' =>
    match r.modes.skipGap rest with
    | '?' :: rest => do
      let (head, rest) ← groupHead? rest
      return (← r.enter? head, rest)
    | rest => some (r.enterGroup r.modes, rest)
  | ')' => r.closeGroup?.map fun r => (r, rest)
  | '|' => some ({ r with group := r.group.alternate }, rest)
  | '*' | '+' | '?' => r.repeatLast? rest
  | '.' => if r.modes.bytewise then none else some (r.add 0, rest)
  | '\x7b' => none
  | _ => some (r.add 0, rest)

/-- Whether a pattern can be read to its end; every step takes a character. -/
def finishes : Nat → Reader → List Char → Bool
  | 0, _, _ => false
  | fuel + 1, r, cs =>
    match r.modes.skipGap cs with
    | [] => r.outer.isEmpty && r.group.nesting ≤ nestingLimit
    | c :: rest => (r.next? c rest).any fun (r, rest) => finishes fuel r rest

end Reader

/-- Whether a value is a number with a plus sign in front, which no expression starts with. -/
def isSignedNumber : List Char → Bool
  | '+' :: rest =>
    ["inf", "infinity", "nan"].contains (String.ofList (rest.map Char.toLower)) ||
      (Decimal.readDigits? rest).isSome
  | _ => false

/-- Whether a value can be read. -/
def isReadable (value : List Char) : Bool :=
  isSignedNumber value || Reader.start.finishes (value.length + 1) value

end PacedImages.Pattern
