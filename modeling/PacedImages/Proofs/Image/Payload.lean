import PacedImages.Image.Payload

/-!
# The size of a payload

A square image has a payload if 64 bits hold its size, and rows of four bytes a pixel up to what 32
bits hold. A payload that is generated has the size that was asked for.
-/

namespace PacedImages

namespace Keystream

theorem blockBytes_length (key : Key) (number : UInt64) : (blockBytes key number).length = 64 :=
  rfl

theorem size_foldl_push (xs : List UInt8) (bytes : ByteArray) :
    (xs.foldl ByteArray.push bytes).size = bytes.size + xs.length := by
  induction xs generalizing bytes with
  | nil => rfl
  | cons x rest ih =>
    rw [List.foldl_cons, ih, ByteArray.size_push, List.length_cons]
    omega

theorem size_appendBlocks (key : Key) (n : Nat) (number : UInt64) (bytes : ByteArray) :
    (appendBlocks key n number bytes).size = bytes.size + 64 * n := by
  induction n generalizing number bytes with
  | zero => rfl
  | succ n ih =>
    rw [appendBlocks, ih, size_foldl_push, blockBytes_length]
    omega

theorem size_bytes (key : Key) (count : Nat) : (bytes key count).size = count := by
  rw [bytes, ByteArray.size_extract, size_appendBlocks]
  show min count (0 + 64 * ((count + 63) / 64)) - 0 = count
  omega

end Keystream

theorem Image.rowBytes_toNat {dimension : UInt32} :
    (rowBytes dimension).toNat = min (4 * dimension.toNat) 0xFFFFFFFF := by
  have hlt : min (dimension.toNat * bytesPerPixel) 0xFFFFFFFF < UInt32.size :=
    Nat.lt_of_le_of_lt (Nat.min_le_right _ _) (by decide)
  rw [rowBytes, UInt32.toNat_ofNat_of_lt' hlt, bytesPerPixel, Nat.mul_comm]

theorem Payload.size?_eq_some_iff {dimension : UInt32} {size : Nat} :
    size? dimension = some size ↔
      dimension.toNat * dimension.toNat * 4 = size ∧ size < UInt64.size := by
  have hdef : size? dimension =
      if dimension.toNat * dimension.toNat * 4 < UInt64.size
      then some (dimension.toNat * dimension.toNat * 4) else none := rfl
  rw [hdef, Option.ite_none_right_eq_some, Option.some.injEq]
  constructor
  · rintro ⟨hfits, rfl⟩
    exact ⟨rfl, hfits⟩
  · rintro ⟨rfl, hfits⟩
    exact ⟨hfits, rfl⟩

/-- A payload that could be allocated has its size. -/
theorem Payload.size_of_generate {size : Nat} {seed : Option UInt64} {drawn : Keystream.Key}
    {isGranted : Bool} {payload : ByteArray} (h : generate size seed drawn isGranted = .ok payload) :
    payload.size = size := by
  unfold generate at h
  cases hallocate : allocate size isGranted with
  | error fault =>
    rw [hallocate] at h
    cases h
  | ok u =>
    rw [hallocate] at h
    cases h
    exact Keystream.size_bytes _ size

end PacedImages
