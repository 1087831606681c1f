/-!
# Log entries

What the program reports while it runs: a level, the component that reports, a message, and named
fields. Entries are values; where they go is decided elsewhere.
-/

namespace PacedImages

inductive Level where
  | error
  | warn
  | info
  | debug
  | trace
deriving Repr, DecidableEq

def Level.name : Level → String
  | .error => "ERROR"
  | .warn => "WARN"
  | .info => "INFO"
  | .debug => "DEBUG"
  | .trace => "TRACE"

/-- How much a level says, the gravest one least. -/
def Level.rank : Level → Nat
  | .error => 1
  | .warn => 2
  | .info => 3
  | .debug => 4
  | .trace => 5

/-- The parts of the program that report. -/
inductive Component where
  | topics
  | files
  | settings
  | dispatch
  | publisher
  | program
deriving Repr, DecidableEq

/-- The name under which a component reports. -/
def Component.target : Component → String
  | .topics => "imgbench_middleware::publisher"
  | .files => "imgbench_params::file"
  | .settings => "imgbench_workers::config"
  | .dispatch => "imgbench_workers::executor"
  | .publisher => "imgbench_workers::publisher"
  | .program => "image_publisher"

inductive FieldValue where
  | number (n : Nat)
  | text (s : String)
  /-- A value of another kind in words, which plain lines show without quotes. -/
  | words (s : String)
  | real (x : Float)

structure LogEntry where
  level : Level
  component : Component
  message : String
  fields : List (String × FieldValue)

/-- The names of the fields, among which the message counts. -/
def LogEntry.fieldNames (e : LogEntry) : List String := "message" :: e.fields.map (·.1)

end PacedImages
