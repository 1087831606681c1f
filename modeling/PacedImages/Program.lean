import PacedImages.CommandLine.Basic
import PacedImages.Report

/-!
# The program

A run of the whole program: it announces itself, finds its parameters, starts a publisher, dispatches
timers until shutdown or until none is left, and says how it ended. Values on the command line lie
over those of the parameter file.
-/

namespace PacedImages

/-- What the program finds outside of itself. -/
structure Surroundings (m : Type → Type) where
  world : World m
  /-- The file under a path. -/
  file : String → ParamFile m
  /-- Reaches the server at an address. -/
  connect : String → m (Except TransportError Unit)
  /-- Starts to serve health and metrics. -/
  serve : Endpoint → m Unit

namespace Program

/-- How a run ends. -/
inductive Ending where
  | finished
  | failed (context : String) (causes : List String)
  /-- The process stopped where it was. -/
  | crashed
  /-- The fuel ran out. -/
  | unfinished

def Ending.exitCode : Ending → Nat
  | .finished => 0
  | .failed .. => 1
  | .crashed => 101
  | .unfinished => 1

/-- What is written to the standard error stream. -/
def Ending.report : Ending → String
  | .finished => ""
  | .failed context causes => Report.text context causes
  | .crashed => "the queue depth exceeds what a channel can hold\n"
  | .unfinished => ""

/-- An optional text as reports show it. -/
def optionalText : Option String → String
  | some text => s!"Some({Text.quoted text})"
  | none => "None"

def startEntry (c : CommandLine) : LogEntry :=
  ⟨.info, .program, "image-publisher starting",
    [("name", .words c.name), ("topic", .words c.topic),
      ("subject_prefix", .words (optionalText c.subjectPrefix)),
      ("transport", .words c.backend.name), ("params", .words (optionalText c.params)),
      ("queue_depth", .number c.queueDepth)]⟩

def endEntry (outcome : Dispatch.Outcome) (p : Publisher) : LogEntry :=
  let fields := [("published", FieldValue.number p.published.toNat), ("state", .words p.phase.name)]
  match outcome with
  | .shutdown => ⟨.info, .program, "image-publisher stopped", fields⟩
  | .idle => ⟨.warn, .program, "no timers left, stopping", fields⟩

variable {m : Type → Type} [Monad m]

/-- The parameter file if there is one, and nothing otherwise. -/
def baseSource (s : Surroundings m) (readDocument : DocumentReader) (c : CommandLine) : Source m :=
  match c.params with
  | some path => .file s.world readDocument (s.file path) (some c.name) Source.defaultPoll
  | none => .memory s.world (pure true) (pure ∅)

/-- The parameters of a run: the base with the overrides over it. -/
def source (s : Surroundings m) (readDocument : DocumentReader) (c : CommandLine) :
    Except ParamError (Source m) := do
  let overrides ← c.overrides readDocument
  let base := baseSource s readDocument c
  return if overrides.isEmpty then base else .layered base overrides

/-- Starts the publisher and dispatches its timers. -/
def publish (s : Surroundings m) (c : CommandLine) (source : Source m) (fuel : Nat) : m Ending := do
  match ← Publisher.create s.world c.name c.topic source c.options c.subjects .empty fuel with
  | .error (.failed e) => return .failed "failed to start publisher" e.causes
  | .error .crashed => return .crashed
  | .error .unfinished => return .unfinished
  | .ok (p, q) =>
    match ← Dispatch.spin s.world (Publisher.onTimer s.world) fuel p q with
    | (some outcome, p, _) =>
      s.world.note (endEntry outcome p)
      return .finished
    | (none, _) => return .unfinished

/-- A run of the program. -/
def run (s : Surroundings m) (readDocument : DocumentReader) (c : CommandLine) (fuel : Nat) :
    m Ending := do
  s.world.note (startEntry c)
  if let some endpoint := c.metricsAddress then s.serve endpoint
  if let some url := c.serverUrl then
    if let .error e ← s.connect url then
      return .failed "failed to create transport" [e.message]
  match source s readDocument c with
  | .error e => return .failed "invalid --param override" e.causes
  | .ok source => publish s c source fuel

end Program

end PacedImages
