import PacedImages.Image.Stamp
import PacedImages.Messaging.Message
import PacedImages.Text.Numeral

/-!
# Images

An image is a frame of pixels with its size, its layout and a stamp. On a transport the pixels are
the payload and everything else goes into eight headers, numbers in decimal. Reading the headers back
reports the first defect, the stamp being looked at first and the texts last.
-/

namespace PacedImages

structure Image where
  frameId : String
  stamp : Stamp
  encoding : String
  height : UInt32
  width : UInt32
  bigEndian : Bool
  /-- The bytes of a row. -/
  step : UInt32
  data : ByteArray

/-- The parts of an image that travel as headers. -/
inductive HeaderName where
  | frameId
  | seconds
  | nanos
  | encoding
  | height
  | width
  | bigEndian
  | step
deriving Repr, DecidableEq

def HeaderName.text : HeaderName → String
  | .frameId => "frame_id"
  | .seconds => "stamp_sec"
  | .nanos => "stamp_nanosec"
  | .encoding => "encoding"
  | .height => "height"
  | .width => "width"
  | .bigEndian => "is_bigendian"
  | .step => "step"

/-- Why a message is no image. -/
inductive MessageError where
  | missing (name : HeaderName)
  | unreadable (name : HeaderName) (value : String)
  | wrongSize (expected actual : Nat)
deriving Repr, DecidableEq

def MessageError.message : MessageError → String
  | .missing name => s!"missing header: {name.text}"
  | .unreadable name value => s!"invalid header {name.text}: {value}"
  | .wrongSize expected actual => s!"payload is {actual} bytes, expected {expected}"

namespace Image

def bytesPerPixel : Nat := 4

/-- The bytes of a row of so many pixels, or the largest number that a row can have. -/
def rowBytes (dimension : UInt32) : UInt32 :=
  UInt32.ofNat (min (dimension.toNat * bytesPerPixel) 0xFFFFFFFF)

/-- A square image of four bytes a pixel. -/
def square (stamp : Stamp) (dimension : UInt32) (data : ByteArray) : Image :=
  { frameId := "image_frame"
    stamp
    encoding := "rgba8"
    height := dimension
    width := dimension
    bigEndian := false
    step := rowBytes dimension
    data }

/-- The text of each header. -/
def header (i : Image) : HeaderName → String
  | .frameId => i.frameId
  | .seconds => toString i.stamp.seconds
  | .nanos => toString i.stamp.nanos
  | .encoding => i.encoding
  | .height => toString i.height.toNat
  | .width => toString i.width.toNat
  | .bigEndian => if i.bigEndian then "1" else "0"
  | .step => toString i.step.toNat

def headerNames : List HeaderName :=
  [.frameId, .seconds, .nanos, .encoding, .height, .width, .bigEndian, .step]

def headers (i : Image) : Headers :=
  Std.ExtTreeMap.ofList (headerNames.map fun name => (name.text, i.header name))

end Image

namespace Headers

def find (h : Headers) (name : HeaderName) : Except MessageError String :=
  match h[name.text]? with
  | some value => .ok value
  | none => .error (.missing name)

/-- A header read by a reader of numerals. -/
def number (h : Headers) (name : HeaderName) (read? : List Char → Option α) :
    Except MessageError α := do
  let value ← find h name
  match read? value.toList with
  | some n => return n
  | none => throw (.unreadable name value)

/-- A header with an unsigned numeral of 32 bits. -/
def word (h : Headers) (name : HeaderName) : Except MessageError UInt32 := do
  return UInt32.ofNat (← number h name (Text.readNat? UInt32.size))

def seconds (h : Headers) : Except MessageError Int :=
  number h .seconds (Text.readInt? (-0x8000000000000000) 0x7FFFFFFFFFFFFFFF)

/-- The stamp of the headers; one that the calendar lacks is reported with nine places. -/
def stamp (h : Headers) : Except MessageError Stamp := do
  let seconds ← seconds h
  let nanos ← word h .nanos
  match Stamp.ofParts? seconds nanos.toNat with
  | some stamp => return stamp
  | none =>
    let places := String.ofList (Text.paddedDigits 9 nanos.toNat)
    throw (.unreadable .seconds s!"{seconds}.{places}")

end Headers

/-- The image that a message carries. -/
def Image.ofMessage (h : Headers) (payload : ByteArray) : Except MessageError Image := do
  let stamp ← Headers.stamp h
  let height ← Headers.word h .height
  let width ← Headers.word h .width
  let step ← Headers.word h .step
  let flag ← Headers.number h .bigEndian (Text.readNat? UInt8.size)
  let expected := step.toNat * height.toNat
  if payload.size ≠ expected then throw (.wrongSize expected payload.size)
  let frameId ← Headers.find h .frameId
  let encoding ← Headers.find h .encoding
  return { frameId, stamp, encoding, height, width, bigEndian := flag ≠ 0, step, data := payload }

end PacedImages
