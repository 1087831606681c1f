import PacedImages.Yaml.Event

/-!
# Documents

The events of the only document of a stream, where the nodes with an anchor start, and the fault
that ends the events if there is one. Directives may stand in front of a document whose start is
marked.
-/

namespace PacedImages.Yaml

/-- How many collections may stand inside one another. -/
def maxDepth : Nat := 128

structure Document where
  events : Array Event
  /-- The event at which the node of each anchor starts. -/
  starts : List (Nat × Nat)
  fault : Option Fault
  /-- Whether anything follows the document. -/
  followed : Bool

/-- The handles that need no directive. -/
def defaultHandles : List (List Char × List UInt8) :=
  [(['!'], "!".toUTF8.toList), (['!', '!'], "tag:yaml.org,2002:".toUTF8.toList)]

namespace EventReader

/-- The directives in front of a document; `versioned` tells whether a version was given. -/
def directives (versioned : Bool) : Nat → List (List Char × List UInt8) →
    EventReader (List (List Char × List UInt8))
  | 0, handles => return handles
  | fuel + 1, handles => do
    match (← peek).kind with
    | .version major minor =>
      if versioned then fail .versionRepeated none
      else if major != 1 || (minor != 1 && minor != 2) then fail .versionUnsupported none
      else
        drop
        directives true fuel handles
    | .tagHandle handle stem =>
      if handles.any (·.1 == handle) then fail .handleRepeated none
      else
        drop
        directives versioned fuel (handles ++ [(handle, stem)])
    | _ => return handles

/-- Whether a token ends an empty document. -/
def endsDocument : TokenKind → Bool
  | .version .. | .tagHandle .. | .documentStart | .documentEnd | .streamEnd => true
  | _ => false

/-- The content of a document, of nodes in blocks. -/
def content (fuel : Nat) : EventReader Unit := node fuel (maxDepth + 2) .block

/-- The document at the start of a stream, up to the token behind it. -/
def document (fuel : Nat) : EventReader Unit := do
  let first ← peek
  match first.kind with
  | .streamEnd => return
  | .version .. | .tagHandle .. | .documentStart =>
    let handles ← directives false fuel []
    modify fun r => { r with handles := handles ++ defaultHandles }
    if ← atAny [.documentStart] then drop else fail .documentStartMissing none
    if endsDocument (← peek).kind then blank else content fuel
  | _ => content fuel
  let _ ← peek

end EventReader

/-- The document of a stream of tokens, `fault` ending the tokens. -/
def Document.ofTokens (tokens : List Token) (fault : Option Fault) : Document :=
  let ending := fault.getD ⟨.contentMissing, .unknown, none⟩
  let fuel := tokens.length + 1
  let (outcome, r) :=
    (EventReader.document fuel).run.run ⟨tokens, ending, #[], [], [], defaultHandles⟩
  let followed := match r.tokens.dropWhile (·.kind == .documentEnd) with
    | ⟨.streamEnd, _⟩ :: _ => false
    | _ => true
  match outcome with
  | .ok () => ⟨r.events, r.starts, none, followed⟩
  | .error f => ⟨r.events, r.starts, some f, false⟩

def Document.ofText (text : String) : Document :=
  let (tokens, fault) := tokensOf text.toList
  .ofTokens tokens.toList fault

end PacedImages.Yaml
