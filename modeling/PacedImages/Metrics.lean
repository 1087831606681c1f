import PacedImages.Decimal.Text
import Std.Data.ExtTreeMap

/-!
# Metrics

Counters and a histogram for every publisher, under its name. Counters have 64 bits and start over.
The text form lists the families in the order of their names and within each the publishers in the
order of theirs; a family without any publisher is left out. Counts are written as the
floating-point number that is nearest to them.
-/

namespace PacedImages

/-- How often values were observed up to each bound, how often at all, and their sum. -/
structure Histogram where
  /-- The observations of each bucket alone, without those of the lower ones. -/
  buckets : List UInt64
  count : UInt64
  sum : Float

/-- What is counted for one publisher. -/
structure Series where
  messages : UInt64
  bytes : UInt64
  errors : UInt64
  duration : Histogram

namespace Histogram

/-- The upper bounds of the buckets in seconds, each bucket holding its bound. -/
def bounds : List Float :=
  [0.00001, 0.00005, 0.0001, 0.0005, 0.001, 0.005, 0.01, 0.05, 0.1]

def fresh : Histogram := ⟨bounds.map fun _ => 0, 0, 0.0⟩

/-- Counts a value in the first bucket that takes it. -/
def countIn (value : Float) : List Float → List UInt64 → List UInt64
  | bound :: bounds, n :: counts =>
    if value ≤ bound then (n + 1) :: counts else n :: countIn value bounds counts
  | _, counts => counts

def observe (h : Histogram) (value : Float) : Histogram :=
  ⟨countIn value bounds h.buckets, h.count + 1, h.sum + value⟩

/-- The counts of the buckets with those of the lower ones. -/
def cumulative (total : UInt64) : List UInt64 → List UInt64
  | [] => []
  | n :: rest => (total + n) :: cumulative (total + n) rest

end Histogram

namespace Series

def fresh : Series := ⟨0, 0, 0, .fresh⟩

/-- A message of so many bytes was handed over within so many seconds. -/
def recordPublish (s : Series) (size : Nat) (seconds : Float) : Series :=
  { s with
    messages := s.messages + 1
    bytes := s.bytes + UInt64.ofNat size
    duration := s.duration.observe seconds }

def recordError (s : Series) : Series := { s with errors := s.errors + 1 }

end Series

structure Metrics where
  series : Std.ExtTreeMap String Series

namespace Metrics

def empty : Metrics := ⟨∅⟩

/-- The series of a publisher, a fresh one if it has none. -/
def get (m : Metrics) (name : String) : Series := (m.series[name]?).getD .fresh

/-- Changes the series of a publisher, which is created by that. -/
def update (m : Metrics) (name : String) (change : Series → Series) : Metrics :=
  ⟨m.series.insert name (change (m.get name))⟩

/-- Creates the series of a publisher. -/
def touch (m : Metrics) (name : String) : Metrics := m.update name id

/-- A character inside the quotes of a label. -/
def escapedLabelChar : Char → List Char
  | '\\' => ['\\', '\\']
  | '"' => ['\\', '"']
  | '\n' => ['\\', 'n']
  | c => [c]

/-- A label with its value in quotes. -/
def label (name value : String) : String :=
  name ++ "=\"" ++ String.ofList (value.toList.flatMap escapedLabelChar) ++ "\""

/-- A line of a metric with its labels and its value. -/
def line (metric : String) (labels : List String) (value : String) : String :=
  metric ++ "\x7b" ++ ",".intercalate labels ++ "\x7d " ++ value

def number (x : Float) : String := Decimal.Style.metric.write x

def count (n : UInt64) : String := number n.toFloat

/-- The lines of a histogram. -/
def histogramLines (metric publisher : String) (h : Histogram) : List String :=
  let owner := label "publisher" publisher
  let bucket (bound : String) (n : UInt64) :=
    line (metric ++ "_bucket") [owner, label "le" bound] (count n)
  let bounded := (Histogram.bounds.zip (Histogram.cumulative 0 h.buckets)).map fun (bound, n) =>
    bucket (number bound) n
  bounded ++
    [bucket "+Inf" h.count, line (metric ++ "_sum") [owner] (number h.sum),
      line (metric ++ "_count") [owner] (count h.count)]

/-- A family of metrics: its name, help and type, and the lines of one publisher. -/
structure Family where
  name : String
  help : String
  type : String
  lines : String → Series → List String

def counterFamily (name help : String) (value : Series → UInt64) : Family :=
  ⟨name, help, "counter", fun publisher s =>
    [line name [label "publisher" publisher] (count (value s))]⟩

/-- The families in the order of their names. -/
def families : List Family :=
  [counterFamily "imgbench_bytes_published_total" "Payload bytes handed to the transport"
      (·.bytes),
    counterFamily "imgbench_messages_published_total" "Images handed to the transport"
      (·.messages),
    ⟨"imgbench_publish_duration_seconds", "Time spent in a single transport publish", "histogram",
      fun publisher s => histogramLines "imgbench_publish_duration_seconds" publisher s.duration⟩,
    counterFamily "imgbench_publish_errors_total" "Publish attempts the transport rejected"
      (·.errors)]

def familyLines (f : Family) (series : List (String × Series)) : List String :=
  if series.isEmpty then []
  else
    ["# HELP " ++ f.name ++ " " ++ f.help, "# TYPE " ++ f.name ++ " " ++ f.type] ++
      series.flatMap fun (publisher, s) => f.lines publisher s

/-- The lines of the text form. -/
def lines (m : Metrics) : List String :=
  families.flatMap fun f => familyLines f m.series.toList

/-- The text form, every line ended. -/
def text (m : Metrics) : String := String.join (m.lines.map (· ++ "\n"))

end Metrics

end PacedImages
