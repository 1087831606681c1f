import PacedImages.CommandLine.Usage
import PacedImages.Log.Filter
import PacedImages.Log.Line
import PacedImages.Program
import PacedImages.Time.Calendar
import PacedImages.Yaml.Reading

/-!
# The live world

The world as the operating system gives it: its clocks, its files, its source of keys, and the
standard streams. Messages go to a bus within the process.
-/

namespace PacedImages.Live

/-- What changes while the process runs. -/
structure Cells where
  bus : IO.Ref Bus
  metrics : IO.Ref Metrics
  shutdown : IO.Ref Bool
  /-- The second at which the clock of instants stood at zero. -/
  bootSecond : Nat

/-- The longest sleep that is asked of the system at once, in milliseconds. -/
def longestNap : Nat := 1000000000

/-- Sleeps until an instant, in naps. -/
partial def sleepUntil (t : Instant) : IO Unit := do
  let now ← IO.monoNanosNow
  if now < t then
    let millis := (t - now + Time.nanosPerMilli - 1) / Time.nanosPerMilli
    IO.sleep (UInt32.ofNat (min millis longestNap))
    sleepUntil t

/-- What the calendar shows. -/
def reading (cells : Cells) : IO Stamp := do
  let now ← IO.monoNanosNow
  let second := cells.bootSecond + now / Stamp.nanosPerSecond
  return ⟨second, now % Stamp.nanosPerSecond⟩

/-- A word of the key in 32 bytes. -/
def keyWord (bytes : ByteArray) (place : Nat) : UInt32 :=
  (List.range 4).foldr (fun i word =>
    word <<< 8 ||| (bytes.data.getD (4 * place + i) 0).toUInt32) 0

def drawKey : IO Keystream.Key := do
  let word := keyWord (← IO.getRandomBytes 32)
  return ⟨⟨word 0, word 1, word 2, word 3⟩, ⟨word 4, word 5, word 6, word 7⟩⟩

def advertise (cells : Cells) (subject : String) (depth : Nat) :
    IO (Except AdvertiseFault Unit) := do
  match (← cells.bus.get).advertise? subject depth with
  | some bus =>
    cells.bus.set bus
    return .ok ()
  | none => return .error .crash

/-- Publishes on the bus, and tells how long that took. -/
def publish (cells : Cells) (subject : String) (payload : ByteArray) (headers : Headers) :
    IO (Except TransportError Unit × Float) := do
  let before ← IO.monoNanosNow
  cells.bus.modify (·.publish subject payload headers)
  let passed := (← IO.monoNanosNow) - before
  return (.ok (), passed.toFloat / 1000000000.0)

/-- Prints an entry if it passes the filter. -/
def note (cells : Cells) (filter : LogFilter) (json : Bool) (e : LogEntry) : IO Unit := do
  if filter.passes e then
    let time := (← reading cells).isoText
    IO.println (if json then e.jsonLine time else e.plainLine time)

def world (cells : Cells) (filter : LogFilter) (json : Bool) : World IO where
  now := IO.monoNanosNow
  sleepUntil := sleepUntil
  sleepOrShutdown t := do
    unless ← cells.shutdown.get do sleepUntil t
    cells.shutdown.get
  isShutdown := cells.shutdown.get
  requestShutdown := cells.shutdown.set true
  reading := reading cells
  reserve size := return size < Payload.addressSpace
  drawKey := drawKey
  advertise := advertise cells
  publish := publish cells
  count change := cells.metrics.modify change
  note := note cells filter json

/-- The text of the file under a path. -/
def readFile (path : String) : IO (Except FileFault String) := do
  if ← ((← IO.currentDir) / path).isDir then return .error .isDirectory
  try
    match String.fromUTF8? (← IO.FS.readBinFile path) with
    | some document => return .ok document
    | none => return .error .notText
  catch _ => return .error .denied

def paramFile (path : String) : ParamFile IO where
  path
  isThere := do ((← IO.currentDir) / path).pathExists
  read := readFile path

/-- Sockets are out of reach for the process. -/
def noSockets : String := "sockets are not available"

def surroundings (w : World IO) : Surroundings IO where
  world := w
  file := paramFile
  connect _ := return .error (.connectionFailed noSockets)
  serve endpoint := w.note ⟨.error, .program, "health/metrics server failed",
    [("addr", .words endpoint.text), ("error", .words noSockets)]⟩

/-- The second at which the system was started, zero if it does not tell. -/
def bootSecond : IO Nat := do
  let lines ← try IO.FS.lines "/proc/stat" catch _ => pure #[]
  let told := lines.toList.filterMap fun line =>
    match line.splitOn " " with
    | ["btime", second] => Text.readNat? UInt64.size second.toList
    | _ => none
  return told.headD 0

/-- The variables that stand in for switches. -/
def environment : IO (String → Option String) := do
  let known ← (Switch.all.filterMap Switch.standIn?).filterMapM fun key => do
    return (← IO.getEnv key).map (key, ·)
  return fun key => known.lookup key

/-- More steps than a process takes. -/
def plenty : Nat := 1000000000000000000

/-- Runs the program as the command line asks, and gives its exit code. -/
def run (c : CommandLine) : IO UInt32 := do
  let cells : Cells :=
    ⟨← IO.mkRef .empty, ← IO.mkRef .empty, ← IO.mkRef false, ← bootSecond⟩
  let filter := LogFilter.ofSetting (← IO.getEnv "RUST_LOG")
  let s := surroundings (world cells filter c.logJson)
  let ending ← Program.run s Yaml.readDocument c plenty
  IO.eprint ending.report
  return UInt32.ofNat ending.exitCode

end PacedImages.Live

open PacedImages in
def main (arguments : List String) : IO UInt32 := do
  let environment ← Live.environment
  match CommandLine.ofArguments arguments environment with
  | .ok c => Live.run c
  | .error .help =>
    IO.print (CommandLine.usage environment)
    return 0
  | .error refusal =>
    IO.eprint refusal.report
    return 2
