import PacedImages.Image.Basic
import PacedImages.Image.Keystream

/-!
# Payloads

The pixels that a publisher sends again and again: as many pseudo-random bytes as a square image
takes. With a seed they are the same in every run.
-/

namespace PacedImages.Payload

/-- The bytes of a square image, none if 64 bits cannot hold their number. -/
def size? (dimension : UInt32) : Option Nat :=
  let size := dimension.toNat * dimension.toNat * Image.bytesPerPixel
  if size < UInt64.size then some size else none

/-- Why memory for a payload could not be had. -/
inductive AllocationFault where
  /-- More bytes than a buffer can ever have. -/
  | beyondCapacity
  | outOfMemory
deriving Repr, DecidableEq

def AllocationFault.message : AllocationFault → String
  | .beyondCapacity =>
    "memory allocation failed because the computed capacity exceeded the collection's maximum"
  | .outOfMemory => "memory allocation failed because the memory allocator returned an error"

/-- The largest buffer there can be. -/
def maxCapacity : Nat := 0x7FFFFFFFFFFFFFFF

/-- How many bytes a program can address. -/
def addressSpace : Nat := 0x800000000000

/-- Whether a buffer of the size can be had when memory for it is granted or not; no memory is asked
for where there are no bytes. What can be addressed is granted where nothing else is said. -/
def allocate (size : Nat) (isGranted : Bool := size < addressSpace) :
    Except AllocationFault Unit :=
  if maxCapacity < size then .error .beyondCapacity
  else if size = 0 || isGranted then .ok ()
  else .error .outOfMemory

/-- The payload of a size; `drawn` is the key where no seed is given. -/
def generate (size : Nat) (seed : Option UInt64) (drawn : Keystream.Key)
    (isGranted : Bool := size < addressSpace) : Except AllocationFault ByteArray := do
  allocate size isGranted
  let key := match seed with
    | some seed => Keystream.Key.ofSeed seed
    | none => drawn
  return Keystream.bytes key size

end PacedImages.Payload
