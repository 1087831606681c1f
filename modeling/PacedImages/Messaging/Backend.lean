/-!
# Backends

The transports that a name selects, in letters of either case.
-/

namespace PacedImages

inductive Backend where
  | memory
  | nats
deriving Repr, DecidableEq

inductive BackendError where
  /-- A name, in small letters, that no backend has. -/
  | unknown (name : String)
  | missingUrl
deriving Repr, DecidableEq

def BackendError.message : BackendError → String
  | .unknown name => s!"unknown transport type: {name}"
  | .missingUrl => "configuration error: NATS transport requires a server URL"

namespace Backend

def name : Backend → String
  | .memory => "memory"
  | .nats => "nats"

def ofName (name : String) : Except BackendError Backend :=
  match name.map Char.toLower with
  | "memory" => .ok .memory
  | "nats" => .ok .nats
  | other => .error (.unknown other)

/-- Whether a backend can be asked for with this address of a server. -/
def checkUrl (backend : Backend) (url : Option String) : Except BackendError Unit :=
  match backend, url with
  | .nats, none => .error .missingUrl
  | _, _ => .ok ()

end Backend

end PacedImages
