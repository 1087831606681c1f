import PacedImages.Image.Payload
import PacedImages.Messaging.Message
import PacedImages.Param.Parameters
import PacedImages.Time.Instant

/-!
# Publisher settings

What a publisher is told to do, read from six parameters that all have defaults. Settings are valid
if at least one image is to be sent and a row of an image fits into 32 bits.
-/

namespace PacedImages

structure Settings where
  period : Duration
  maxCount : UInt32
  /-- The pixels along one side of an image. -/
  dimension : UInt32
  startDelay : Duration
  /-- Where a report would go; nothing is written there. -/
  reportPath : String
  seed : Option UInt64
deriving DecidableEq

/-- What is wrong with settings. -/
inductive SettingsFault where
  | noImages
  | rowTooLong (dimension : UInt32)
  | imageTooLarge (dimension : UInt32)
  | noMemory (size : Nat) (fault : Payload.AllocationFault)
deriving Repr, DecidableEq

def SettingsFault.message : SettingsFault → String
  | .noImages => "max_count must be at least 1"
  | .rowTooLong dimension => s!"dimensions {dimension.toNat} overflows the row step"
  | .imageTooLarge dimension => s!"dimensions {dimension.toNat} is too large for this platform"
  | .noMemory size fault => s!"cannot allocate a {size} byte payload: {fault.message}"

/-- Why a publisher could not be started. -/
inductive WorkerError where
  | sourceUnavailable (attempts : UInt32)
  | interrupted
  | invalidSettings (fault : SettingsFault)
  | param (error : ParamError)
  | transport (error : TransportError)

def WorkerError.message : WorkerError → String
  | .sourceUnavailable attempts =>
    s!"parameter source unavailable after {attempts.toNat} attempts"
  | .interrupted => "interrupted while waiting for the parameter source"
  | .invalidSettings fault => s!"invalid configuration: {fault.message}"
  | .param error => s!"parameter error: {error.message}"
  | .transport error => s!"transport error: {error.message}"

namespace Settings

def standard : Settings :=
  { period := Time.millis 10
    maxCount := 100
    dimension := 1024
    startDelay := Time.millis 0
    reportPath := ""
    seed := none }

/-- The names of the parameters that settings are read from. -/
def names : List String := ["dt", "max_count", "dimensions", "delay", "benchmark_path", "seed"]

/-- The widest image whose row fits into 32 bits. -/
def maxDimension : UInt32 := 0xFFFFFFFF / 4

def payloadSize (s : Settings) : Except SettingsFault Nat :=
  match Payload.size? s.dimension with
  | some size => .ok size
  | none => .error (.imageTooLarge s.dimension)

def validate (s : Settings) : Except SettingsFault Unit := do
  if s.maxCount = 0 then throw .noImages
  if maxDimension < s.dimension then throw (.rowTooLong s.dimension)
  let _ ← s.payloadSize

/-- The bytes of a row. -/
def rowBytes (s : Settings) : UInt32 := Image.rowBytes s.dimension

/-- The six parameters, without a look at whether they fit together. -/
def read (p : Parameters) : Except ParamError Settings := do
  let period ← p.getOr .word64 "dt" 10
  let maxCount ← p.getOr .word32 "max_count" standard.maxCount
  let dimension ← p.getOr .word32 "dimensions" standard.dimension
  let startDelay ← p.getOr .word64 "delay" 0
  let reportPath ← p.getOr .text "benchmark_path" standard.reportPath
  let seed ← p.getOpt .word64 "seed"
  return {
    period := Time.millis period.toNat
    maxCount
    dimension
    startDelay := Time.millis startDelay.toNat
    reportPath
    seed }

/-- Valid settings from parameters; an absent parameter takes its default. -/
def ofParameters (p : Parameters) : Except WorkerError Settings := do
  let s ← (read p).mapError .param
  s.validate.mapError .invalidSettings
  return s

end Settings

end PacedImages
