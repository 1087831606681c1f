import PacedImages.Yaml.TokenStream

/-!
# Events

The nodes of a document in the order of its text: scalars, aliases, and the starts and ends of
collections. An alias holds a number for its anchor, and a table gives the event at which the node
of the number starts. Where an anchor is given a second time its number is the count of the names so
far, which a later anchor may take over.
-/

namespace PacedImages.Yaml

/-- The bytes of a node's tag, if it has one. -/
abbrev Tag := Option (List UInt8)

inductive EventKind where
  | alias (anchor : Nat)
  | scalar (tag : Tag) (text : String) (plain : Bool)
  | listStart (tag : Tag)
  | listEnd
  | mapStart (tag : Tag)
  | mapEnd

structure Event where
  kind : EventKind
  mark : Mark

/-- What is left of the tokens, and what the events so far leave for those that follow. -/
structure EventReading where
  tokens : List Token
  /-- The fault that ends the tokens. -/
  fault : Fault
  events : Array Event
  /-- The number that each name stands for at present. -/
  names : List (String × Nat)
  /-- The events at which the nodes of the numbers start, the latest entry of a number first. -/
  starts : List (Nat × Nat)
  /-- What each tag handle stands for. -/
  handles : List (List Char × List UInt8)

/-- A step that reads tokens; the events in front of a fault stay. -/
abbrev EventReader := ExceptT Fault (StateM EventReading)

namespace EventReader

def peek : EventReader Token := do
  match (← get).tokens with
  | token :: _ => return token
  | [] => throw (← get).fault

def drop : EventReader Unit := modify fun r => { r with tokens := r.tokens.tail }

/-- Whether the next token is one of those given. -/
def atAny (kinds : List TokenKind) : EventReader Bool := return kinds.contains (← peek).kind

/-- The next token is not what it should be. -/
def fail (problem : Problem) (origin : Option Origin) : EventReader α := do
  throw ⟨problem, .spot (← peek).mark, origin⟩

def emit (kind : EventKind) (mark : Mark) : EventReader Unit :=
  modify fun r => { r with events := r.events.push ⟨kind, mark⟩ }

/-- A node without any text in front of the next token. -/
def blank : EventReader Unit := do
  emit (.scalar none "" true) (← peek).mark

/-- The node, unless one of the tokens stands in its place. -/
def unlessAny (kinds : List TokenKind) (node : EventReader Unit) : EventReader Unit := do
  if ← atAny kinds then blank else node

/-- Notes that a node with an anchor starts with the next event. -/
def noteAnchor (name : String) : EventReader Unit := modify fun r =>
  let number := r.names.length
  { r with
    names := (name, number) :: r.names.filter (·.1 != name)
    starts := (number, r.events.size) :: r.starts }

/-- The entries of a block list up to its end. -/
def blockItems (start : Mark) (node : EventReader Unit) : Nat → EventReader Unit
  | 0 => fail .dashMissing none
  | fuel + 1 => do
    let token ← peek
    match token.kind with
    | .blockEntry =>
      drop
      unlessAny [.blockEntry, .blockEnd] node
      blockItems start node fuel
    | .blockEnd =>
      emit .listEnd token.mark
      drop
    | _ => fail .dashMissing (some ⟨.blockList, start⟩)

/-- The entries of a list that stands at the column of its key. -/
def hangingItems (node : EventReader Unit) : Nat → EventReader Unit
  | 0 => fail .dashMissing none
  | fuel + 1 => do
    let token ← peek
    if token.kind == .blockEntry then
      drop
      unlessAny [.blockEntry, .key, .value, .blockEnd] node
      hangingItems node fuel
    else emit .listEnd token.mark

/-- A value behind its mark, blank if the mark is missing or one of the tokens follows it. -/
def valueUnless (stops : List TokenKind) (node : EventReader Unit) : EventReader Unit := do
  if ← atAny [.value] then
    drop
    unlessAny stops node
  else blank

/-- The pairs of a block mapping up to its end. -/
def blockPairs (start : Mark) (node : EventReader Unit) : Nat → EventReader Unit
  | 0 => fail .keyMissing none
  | fuel + 1 => do
    let token ← peek
    match token.kind with
    | .key =>
      drop
      unlessAny [.key, .value, .blockEnd] node
      valueUnless [.key, .value, .blockEnd] node
      blockPairs start node fuel
    | .blockEnd =>
      emit .mapEnd token.mark
      drop
    | _ => fail .keyMissing (some ⟨.blockMap, start⟩)

/-- The single pair that stands in a list in brackets without braces of its own. -/
def singlePair (node : EventReader Unit) : EventReader Unit := do
  emit (.mapStart none) (← peek).mark
  drop
  if ← atAny [.value, .flowEntry, .flowListEnd] then
    drop
    blank
  else node
  valueUnless [.flowEntry, .flowListEnd] node
  emit .mapEnd (← peek).mark

/-- Past the comma between two entries; none before the first or in front of the end. -/
def separate (first : Bool) (last : TokenKind) (problem : Problem) (origin : Origin) :
    EventReader Unit := do
  if first || (← atAny [last]) then return
  else if ← atAny [.flowEntry] then drop
  else fail problem (some origin)

/-- The items of a list in brackets up to its end. -/
def flowItems (start : Mark) (node : EventReader Unit) : Nat → Bool → EventReader Unit
  | 0, _ => fail .listNotClosed none
  | fuel + 1, first => do
    separate first .flowListEnd .listNotClosed ⟨.flowList, start⟩
    let token ← peek
    match token.kind with
    | .flowListEnd =>
      emit .listEnd token.mark
      drop
    | .key =>
      singlePair node
      flowItems start node fuel false
    | _ =>
      node
      flowItems start node fuel false

/-- The pairs of a mapping in braces up to its end. -/
def flowPairs (start : Mark) (node : EventReader Unit) : Nat → Bool → EventReader Unit
  | 0, _ => fail .mapNotClosed none
  | fuel + 1, first => do
    separate first .flowMapEnd .mapNotClosed ⟨.flowMap, start⟩
    let token ← peek
    match token.kind with
    | .flowMapEnd =>
      emit .mapEnd token.mark
      drop
    | .key =>
      drop
      unlessAny [.value, .flowEntry, .flowMapEnd] node
      valueUnless [.flowEntry, .flowMapEnd] node
      flowPairs start node fuel false
    | _ =>
      node
      blank
      flowPairs start node fuel false

/-- An anchor if one stands here. -/
def anchor? : EventReader (Option String) := do
  match (← peek).kind with
  | .anchor name =>
    drop
    return some name
  | _ => return none

/-- A tag's handle, suffix and place, if one stands here. -/
def tagToken? : EventReader (Option (List Char × List UInt8 × Mark)) := do
  let token ← peek
  match token.kind with
  | .tag handle suffix =>
    drop
    return some (handle, suffix, token.mark)
  | _ => return none

/-- The tag with its handle resolved, in the node that starts at `start`. -/
def resolveTag (start : Mark) : Option (List Char × List UInt8 × Mark) → EventReader Tag
  | none => return none
  | some (handle, suffix, mark) => do
    if handle.isEmpty then return some suffix
    match (← get).handles.lookup handle with
    | some stem => return some (stem ++ suffix)
    | none => throw ⟨.handleUnknown, .spot mark, some ⟨.node, start⟩⟩

/-- The anchor and the tag of a node, in either order. -/
def properties (start : Mark) : EventReader (Option String × Tag) := do
  match ← anchor? with
  | some name =>
    let tag ← tagToken?
    let _ ← peek
    return (some name, ← resolveTag start tag)
  | none =>
    let tag ← tagToken?
    let anchor ← anchor?
    let _ ← peek
    return (anchor, ← resolveTag start tag)

/-- A reference to a node with an anchor that came before. -/
def reference (name : String) (mark : Mark) : EventReader Unit := do
  match (← get).names.lookup name with
  | some number =>
    drop
    emit (.alias number) mark
  | none => throw ⟨.anchorUnknown, .spot mark, none⟩

/-- Where a node stands: in brackets, in a block, or as the key or value of a block mapping. -/
inductive Standing where
  | flow
  | block
  | pair
deriving DecidableEq

/-- A node inside of the given number of further collections; `fuel` bounds the entries of each. -/
def node (fuel : Nat) : Nat → Standing → EventReader Unit
  | 0, _ => do throw ⟨.tooDeep, .spot (← peek).mark, none⟩
  | depth + 1, standing => do
    let first ← peek
    match first.kind with
    | .alias name => reference name first.mark
    | _ =>
      let start := first.mark
      let (anchor, tag) ← properties start
      let token ← peek
      let note : EventReader Unit := anchor.forM noteAnchor
      let blocked := standing == .flow
      let unmarked : EventReader Unit :=
        if anchor.isSome || tag.isSome then do
          note
          emit (.scalar tag "" true) start
        else
          fail .contentMissing (some ⟨if blocked then .flowNode else .blockNode, start⟩)
      match token.kind with
      | .scalar text plain =>
        note
        emit (.scalar tag text plain) start
        drop
      | .blockEntry =>
        if standing == .pair then
          note
          emit (.listStart tag) start
          hangingItems (node fuel depth .block) fuel
        else unmarked
      | .flowListStart =>
        note
        emit (.listStart tag) start
        drop
        flowItems token.mark (node fuel depth .flow) fuel true
      | .flowMapStart =>
        note
        emit (.mapStart tag) start
        drop
        flowPairs token.mark (node fuel depth .flow) fuel true
      | .blockListStart =>
        if blocked then unmarked
        else
          note
          emit (.listStart tag) start
          drop
          blockItems token.mark (node fuel depth .block) fuel
      | .blockMapStart =>
        if blocked then unmarked
        else
          note
          emit (.mapStart tag) start
          drop
          blockPairs token.mark (node fuel depth .pair) fuel
      | _ => unmarked

end EventReader

end PacedImages.Yaml
