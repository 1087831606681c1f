import PacedImages.CommandLine.Arguments
import PacedImages.Messaging.SubjectBook
import PacedImages.Publisher.Basic

/-!
# The command line

What a run is asked to do. The arguments count first; the environment stands in for what they leave
out, and then the defaults do.
-/

namespace PacedImages

structure CommandLine where
  name : String
  topic : String
  backend : Backend
  subjectPrefix : Option String
  natsUrl : String
  /-- The path of the parameter file. -/
  params : Option String
  assignments : List String
  queueDepth : Nat
  paramWait : Nat
  paramAttempts : Option UInt32
  metricsAddress : Option Endpoint
  logJson : Bool

namespace CommandLine

/-- The command line where nothing is given. -/
def standard : CommandLine :=
  { name := "image_publisher"
    topic := "image"
    backend := .memory
    subjectPrefix := none
    natsUrl := "nats://localhost:4222"
    params := none
    assignments := []
    queueDepth := Advertisement.defaultDepth
    paramWait := 1000
    paramAttempts := none
    metricsAddress := none
    logJson := false }

/-- What was given, with defaults for the rest. -/
def ofGiven (g : Given) : CommandLine :=
  { name := g.name.getD standard.name
    topic := g.topic.getD standard.topic
    backend := g.backend.getD standard.backend
    subjectPrefix := g.subjectPrefix
    natsUrl := g.natsUrl.getD standard.natsUrl
    params := g.params
    assignments := g.assignments.reverse
    queueDepth := g.queueDepth.getD standard.queueDepth
    paramWait := g.paramWait.getD standard.paramWait
    paramAttempts := g.paramAttempts.map UInt32.ofNat
    metricsAddress := g.metricsAddress
    logJson := g.logJson.isSome }

/-- The command line in arguments and environment. -/
def ofArguments (arguments : List String) (environment : String → Option String) :
    Except Refusal CommandLine := do
  let given ← readArguments arguments .nothing none
  return ofGiven (← Switch.all.foldlM (Given.takeStandIn environment) given)

/-- The address of the server, for a backend that has one. -/
def serverUrl (c : CommandLine) : Option String :=
  match c.backend with
  | .memory => none
  | .nats => some c.natsUrl

/-- The book for the subjects of topics. -/
def subjects (c : CommandLine) : SubjectBook :=
  match c.subjectPrefix with
  | some given => .under given
  | none => .plain

/-- The overrides as parameters. -/
def overrides (readDocument : DocumentReader) (c : CommandLine) : Except ParamError Parameters :=
  readAssignments readDocument c.assignments

/-- What is asked of the publisher besides its settings. -/
def options (c : CommandLine) : Publisher.Options :=
  ⟨c.queueDepth, ⟨Time.millis c.paramWait, c.paramAttempts⟩⟩

end CommandLine

end PacedImages
