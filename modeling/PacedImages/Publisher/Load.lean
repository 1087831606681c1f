import PacedImages.Param.Source
import PacedImages.Publisher.Settings

/-!
# Loading settings

Settings are read from a source that may not be there yet. The source is waited for again and again
until it answers, until shutdown is requested, or until the attempts are used up; an answer counts
even if shutdown was requested meanwhile, and a request counts before the last failed attempt does.
Attempts are counted in 32 bits.
-/

namespace PacedImages

structure RetryPolicy where
  /-- How long the source is waited for at each attempt. -/
  wait : Duration
  /-- After how many failed attempts to give up; none goes on until shutdown. -/
  maxAttempts : Option UInt32
deriving Repr, DecidableEq

def RetryPolicy.standard : RetryPolicy := ⟨Time.millis 1000, none⟩

namespace Settings

variable {m : Type → Type} [Monad m]

/-- One wait for the source and one question; `none` where the source was out of reach. -/
def ask (w : World m) (source : Source m) (policy : RetryPolicy) (node : String) :
    m (Option (Except ParamError Parameters)) := do
  if ← source.wait policy.wait then
    match ← source.get names with
    | .error (.unavailable reason) =>
      w.note ⟨.warn, .settings, "parameter source went away while reading",
        [("node", .text node), ("reason", .words reason)]⟩
      return none
    | answer => return some answer
  else return none

/-- The entry for settings that were read. -/
def loadedEntry (node : String) (s : Settings) : LogEntry :=
  ⟨.info, .settings, "loaded publisher parameters",
    [("node", .text node), ("dt_ms", .number (s.period / Time.nanosPerMilli)),
      ("max_count", .number s.maxCount.toNat), ("dimensions", .number s.dimension.toNat),
      ("delay_ms", .number (s.startDelay / Time.nanosPerMilli)),
      ("benchmark_path", .words s.reportPath)]⟩

/-- The settings in an answer of the source. -/
def accept (w : World m) (node : String) (answer : Except ParamError Parameters) :
    m (Except WorkerError Settings) := do
  match answer with
  | .error e => return .error (.param e)
  | .ok p =>
    match ofParameters p with
    | .error e => return .error e
    | .ok s =>
      w.note (loadedEntry node s)
      return .ok s

/-- The settings after so many failed attempts; `none` stands for fuel that ran out. -/
def loadFrom (w : World m) (source : Source m) (policy : RetryPolicy) (node : String) :
    Nat → UInt32 → m (Option (Except WorkerError Settings))
  | 0, _ => return none
  | fuel + 1, attempts => do
    match ← ask w source policy node with
    | some answer => return some (← accept w node answer)
    | none =>
      if ← w.isShutdown then
        w.note ⟨.error, .settings,
          "interrupted while waiting for the parameter service, exiting", [("node", .text node)]⟩
        return some (.error .interrupted)
      let attempts := attempts + 1
      let counted := [("node", .text node), ("attempts", FieldValue.number attempts.toNat)]
      if policy.maxAttempts.any (· ≤ attempts) then
        w.note ⟨.error, .settings, "parameter service never became available", counted⟩
        return some (.error (.sourceUnavailable attempts))
      w.note ⟨.info, .settings, "parameter service not available, waiting again", counted⟩
      loadFrom w source policy node fuel attempts

/-- The settings that a source has for a node. -/
def load (w : World m) (source : Source m) (policy : RetryPolicy) (node : String) (fuel : Nat) :
    m (Option (Except WorkerError Settings)) :=
  loadFrom w source policy node fuel 0

end Settings

end PacedImages
