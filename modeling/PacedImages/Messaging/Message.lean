import Std.Data.ExtTreeMap

/-!
# Messages

What travels over a transport: bytes with named headers, under a subject. Failures of transports are
given by cause; what a backend reports of itself is kept as its text.
-/

namespace PacedImages

abbrev Headers := Std.ExtTreeMap String String

/-- A message as it is delivered. The reading of the processor's counter that travels with it is left
out, as nobody looks at it. -/
structure Message where
  subject : String
  payload : ByteArray
  headers : Headers
  /-- How many messages were published on the transport before this one. Those of a bus have such a
  number, and no others are delivered here. -/
  sequence : UInt64

/-- Why a subscription had no message to give. -/
inductive ReceiveFault where
  /-- So many messages were overwritten before they were read. -/
  | lagged (missed : Nat)
  | closed
deriving Repr, DecidableEq

def ReceiveFault.message : ReceiveFault → String
  | .lagged missed => s!"channel lagged by {missed}"
  | .closed => "channel closed"

inductive TransportError where
  | connectionFailed (report : String)
  | publishFailed (report : String)
  | subscribeFailed (fault : ReceiveFault)
  | invalidTopic (topic : String)
deriving Repr, DecidableEq

def TransportError.message : TransportError → String
  | .connectionFailed report => s!"connection failed: {report}"
  | .publishFailed report => s!"publish failed: {report}"
  | .subscribeFailed fault => s!"subscribe failed: {fault.message}"
  | .invalidTopic topic => s!"invalid topic: {topic}"

end PacedImages
