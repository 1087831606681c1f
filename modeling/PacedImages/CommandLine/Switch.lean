/-!
# Switches

The switches of the command line, each with its name, what it takes, the environment variable that
stands in for it, and what the usage text says of it.
-/

namespace PacedImages

inductive Switch where
  | name
  | topic
  | transport
  | subjectPrefix
  | natsUrl
  | params
  | param
  | queueDepth
  | paramWait
  | paramAttempts
  | metricsAddress
  | logJson
  | help
deriving Repr, DecidableEq

namespace Switch

/-- The switches in the order in which variables are looked up and the usage text lists them. -/
def all : List Switch :=
  [.name, .topic, .transport, .subjectPrefix, .natsUrl, .params, .param, .queueDepth, .paramWait,
    .paramAttempts, .metricsAddress, .logJson, .help]

/-- The name after the two hyphens. -/
def word : Switch → String
  | .name => "name"
  | .topic => "topic"
  | .transport => "transport"
  | .subjectPrefix => "subject-prefix"
  | .natsUrl => "nats-url"
  | .params => "params"
  | .param => "param"
  | .queueDepth => "queue-depth"
  | .paramWait => "param-wait-ms"
  | .paramAttempts => "param-max-attempts"
  | .metricsAddress => "metrics-addr"
  | .logJson => "log-json"
  | .help => "help"

def ofWord? (word : String) : Option Switch := all.find? fun s => s.word == word

/-- What the usage text calls the value, for switches that take one. -/
def placeholder? : Switch → Option String
  | .param => some "NAME=VALUE"
  | .logJson | .help => none
  | s => some (s.word.map fun c => if c = '-' then '_' else c.toUpper)

def takesValue (s : Switch) : Bool := s.placeholder?.isSome

/-- The environment variable that is asked when the switch is absent. -/
def standIn? : Switch → Option String
  | .name => some "IMGBENCH_NAME"
  | .topic => some "IMGBENCH_TOPIC"
  | .transport => some "IMGBENCH_TRANSPORT"
  | .subjectPrefix => some "IMGBENCH_SUBJECT_PREFIX"
  | .natsUrl => some "NATS_URL"
  | .params => some "IMGBENCH_PARAMS"
  | .metricsAddress => some "IMGBENCH_METRICS_ADDR"
  | _ => none

/-- What the switch is for. -/
def purpose : Switch → String
  | .name => "Node name, used as the parameter namespace and metrics label"
  | .topic => "Topic to publish images on"
  | .transport => "Transport backend (memory or nats)"
  | .subjectPrefix => "Prefix placed in front of every subject (e.g. `bench` gives `bench.image`)"
  | .natsUrl => "NATS server URL"
  | .params => "YAML parameter file. Without one, built-in defaults are used"
  | .param => "Parameter override as name=value, repeatable"
  | .queueDepth => "Publisher queue depth"
  | .paramWait => "Milliseconds to wait for the parameter source per attempt"
  | .paramAttempts => "Give up after this many failed waits (default: retry until shutdown)"
  | .metricsAddress => "Serve /healthz and /metrics on this address"
  | .logJson => "Emit logs as JSON"
  | .help => "Print help"

/-- The switch as the usage text writes it. -/
def synopsis (s : Switch) : String :=
  match s.placeholder? with
  | some placeholder => s!"--{s.word} <{placeholder}>"
  | none => s!"--{s.word}"

end Switch

end PacedImages
