import PacedImages.Param.Section
import PacedImages.World

/-!
# Parameter sources

A source may not be reachable yet: it can be waited for, and then asked for parameters by name. The
sources are a set in memory, a file, and a set of values laid over another source. A file is waited
for by looking for it again and again.
-/

namespace PacedImages

structure Source (m : Type → Type) where
  /-- Waits until the source is reachable, at most so long, and tells whether it is. -/
  wait : Duration → m Bool
  /-- The parameters among those named that the source has. -/
  get : List String → m (Except ParamError Parameters)

/-- A file as far as parameters are concerned. -/
structure ParamFile (m : Type → Type) where
  path : String
  isThere : m Bool
  read : m (Except FileFault String)

variable {m : Type → Type} [Monad m]

namespace Source

/-- A set of parameters in memory, which can be out of reach. -/
def memory (w : World m) (isAvailable : m Bool) (stored : m Parameters) : Source m where
  wait timeout := do
    if ← isAvailable then return true
    w.sleepUntil ((← w.now) + timeout)
    isAvailable
  get names := do
    if ← isAvailable then return .ok ((← stored).select names)
    else return .error (.unavailable "in-memory source disabled")

/-- Looks for a file every `poll` until the deadline; the fuel bounds the looks. -/
def pollFile (w : World m) (file : ParamFile m) (poll : Duration) (deadline : Instant) :
    Nat → m Bool
  | 0 => return false
  | fuel + 1 => do
    if ← file.isThere then return true
    let now ← w.now
    if deadline ≤ now then return false
    w.sleepUntil (now + min poll (deadline - now))
    pollFile w file poll deadline fuel

/-- The parameters in a file, all of the node's section. -/
def loadFile (readDocument : DocumentReader) (file : ParamFile m) (ns : Option String) :
    m (Except ParamError Parameters) := do
  match ← file.read with
  | .ok document => return readSection readDocument ns document
  | .error fault => return .error (.file fault)

/-- How often a file is looked for. -/
def defaultPoll : Duration := Time.millis 100

/-- A file that is read anew each time it is asked. -/
def file (w : World m) (readDocument : DocumentReader) (file : ParamFile m)
    (ns : Option String) (poll : Duration) : Source m where
  wait timeout := do
    pollFile w file poll ((← w.now) + timeout) (timeout / poll + 2)
  get names := do
    if ← file.isThere then
      match ← loadFile readDocument file ns with
      | .ok p =>
        w.note ⟨.debug, .files, "loaded parameter file",
          [("path", .words file.path), ("count", .number p.size)]⟩
        return .ok (p.select names)
      | .error e => return .error e
    else return .error (.unavailable file.path)

/-- A source with fixed values laid over it; whether it can be reached is up to the base. -/
def layered (base : Source m) (overrides : Parameters) : Source m where
  wait := base.wait
  get names := do
    match ← base.get names with
    | .ok p => return .ok (p.merge (overrides.select names))
    | .error e => return .error e

end Source

end PacedImages
