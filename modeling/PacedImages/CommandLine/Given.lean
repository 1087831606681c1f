import PacedImages.CommandLine.Switch
import PacedImages.Endpoint
import PacedImages.Messaging.Backend

/-!
# What is given

What the switches say, as far as they were given, and why a switch is refused. Each switch but that
for overrides has one place, which may be filled once; whether it is filled already is looked at
before the value is read.
-/

namespace PacedImages

/-- Why arguments lead to no command line. -/
inductive Refusal where
  /-- Help was asked for. -/
  | help
  | unknown (argument : String)
  | missingValue (switch : Switch)
  /-- A value that the switch does not read. -/
  | badValue (switch : Switch) (text : String)
  | repeated (switch : Switch)
  /-- A value for a switch that takes none. -/
  | needlessValue (switch : Switch) (text : String)
deriving Repr, DecidableEq

/-- What the switches say, as far as they were given. -/
structure Given where
  name : Option String
  topic : Option String
  backend : Option Backend
  subjectPrefix : Option String
  natsUrl : Option String
  params : Option String
  /-- The overrides, the last one first. -/
  assignments : List String
  queueDepth : Option Nat
  paramWait : Option Nat
  paramAttempts : Option Nat
  metricsAddress : Option Endpoint
  logJson : Option Unit

namespace Given

def nothing : Given := ⟨none, none, none, none, none, none, [], none, none, none, none, none⟩

/-- Fills a place that must be free, with a value that must be readable. -/
def fill (switch : Switch) (place : Option α) (text : String) (value : Option α) :
    Except Refusal (Option α) :=
  if place.isSome then .error (.repeated switch)
  else match value with
    | some a => .ok (some a)
    | none => .error (.badValue switch text)

/-- An unsigned numeral of 64 bits. -/
def word64? (text : String) : Option Nat := Text.readNat? UInt64.size text.toList

/-- A numeral from one to the greatest of 32 bits. -/
def attempts? (text : String) : Option Nat :=
  (Text.readInt? 1 0xFFFFFFFF text.toList).map Int.toNat

/-- Takes in what a switch says. -/
def take (g : Given) (switch : Switch) (text : String) : Except Refusal Given := do
  match switch with
  | .name => return { g with name := ← fill switch g.name text (some text) }
  | .topic => return { g with topic := ← fill switch g.topic text (some text) }
  | .transport =>
    return { g with backend := ← fill switch g.backend text (Backend.ofName text).toOption }
  | .subjectPrefix =>
    return { g with subjectPrefix := ← fill switch g.subjectPrefix text (some text) }
  | .natsUrl => return { g with natsUrl := ← fill switch g.natsUrl text (some text) }
  | .params =>
    let params ← fill switch g.params text (some text)
    if text.isEmpty then throw (.missingValue switch)
    return { g with params }
  | .param => return { g with assignments := text :: g.assignments }
  | .queueDepth => return { g with queueDepth := ← fill switch g.queueDepth text (word64? text) }
  | .paramWait => return { g with paramWait := ← fill switch g.paramWait text (word64? text) }
  | .paramAttempts =>
    return { g with paramAttempts := ← fill switch g.paramAttempts text (attempts? text) }
  | .metricsAddress =>
    let metricsAddress ← fill switch g.metricsAddress text (Endpoint.ofText? text)
    return { g with metricsAddress }
  | .logJson => return { g with logJson := ← fill switch g.logJson text (some ()) }
  | .help => throw .help

/-- Takes in what the environment says, unless the switch was given. -/
def takeStandIn (environment : String → Option String) (g : Given) (switch : Switch) :
    Except Refusal Given :=
  match switch.standIn?.bind environment with
  | none => .ok g
  | some text =>
    match g.take switch text with
    | .error (.repeated _) => .ok g
    | result => result

end Given

end PacedImages
