import PacedImages.Proofs.Image.Defects
import PacedImages.Proofs.Image.Headers
import PacedImages.Proofs.Publisher.Settings

/-!
# Usable dimensions

Settings are valid up to the widest image whose row fits into 32 bits, and the limit is exact: up to
it a receiver reads back every square image, and past it none that has its payload.
-/

namespace PacedImages

variable {d : UInt32} {size : Nat}

/-- The payload of a square image fills its rows exactly if they fit into 32 bits. -/
theorem Payload.size_eq_rows_iff (hsize : size? d = some size) :
    size = (Image.rowBytes d).toNat * d.toNat ↔ d.toNat ≤ 0xFFFFFFFF / 4 := by
  obtain ⟨rfl, _⟩ := size?_eq_some_iff.mp hsize
  rw [Image.rowBytes_toNat]
  constructor
  · intro hfills
    refine Nat.le_of_not_lt fun hwide => ?_
    have hpos : 0 < d.toNat := by omega
    have hmin : min (4 * d.toNat) 0xFFFFFFFF = 0xFFFFFFFF := by omega
    have hshort : 0xFFFFFFFF * d.toNat < 4 * d.toNat * d.toNat :=
      Nat.mul_lt_mul_of_pos_right (by omega) hpos
    rw [hmin, Nat.mul_comm, ← Nat.mul_assoc] at hfills
    omega
  · intro hfits
    have hmin : min (4 * d.toNat) 0xFFFFFFFF = 4 * d.toNat := by omega
    rw [hmin, Nat.mul_comm, Nat.mul_assoc]

namespace Settings

variable {s : Settings}

theorem payloadSize_eq_rows (h : s.dimension.toNat ≤ 0xFFFFFFFF / 4) :
    s.payloadSize = .ok (s.rowBytes.toNat * s.dimension.toNat) := by
  rw [payloadSize_of_le h, rowBytes_toNat h, Nat.mul_comm, Nat.mul_assoc]

theorem rows_lt (h : s.dimension.toNat ≤ 0xFFFFFFFF / 4) :
    4 * (s.dimension.toNat * s.dimension.toNat) < 0x4000000000000000 := by
  have hsquare : s.dimension.toNat * s.dimension.toNat ≤ (0xFFFFFFFF / 4) * (0xFFFFFFFF / 4) :=
    Nat.mul_le_mul h h
  omega

/-- Settings are valid exactly up to the dimension whose row fits into 32 bits, the number of images
being looked at first, and the payload is then never too large. Of all square images whose size 64
bits can hold, a receiver reads exactly those. -/
theorem valid_dimensions_readable :
    (∀ s : Settings,
      (s.validate =
        if s.maxCount.toNat < 1 then .error .noImages
        else if 0xFFFFFFFF / 4 < s.dimension.toNat then .error (.rowTooLong s.dimension)
        else .ok ()) ∧
      (s.validate = .ok () ↔ 1 ≤ s.maxCount.toNat ∧ s.dimension.toNat ≤ 0xFFFFFFFF / 4) ∧
      (s.validate = .ok () →
        s.rowBytes.toNat = 4 * s.dimension.toNat ∧
        s.payloadSize = .ok (s.rowBytes.toNat * s.dimension.toNat) ∧
        s.rowBytes.toNat * s.dimension.toNat = 4 * (s.dimension.toNat * s.dimension.toNat) ∧
        4 * (s.dimension.toNat * s.dimension.toNat) < 0x4000000000000000)) ∧
    (∀ (d : UInt32) (size : Nat), Payload.size? d = some size ↔
      4 * (d.toNat * d.toNat) = size ∧ size < 0x10000000000000000) ∧
    ∀ (stamp : Stamp) (d : UInt32) (data : ByteArray),
      stamp.InCalendar → Payload.size? d = some data.size →
      Image.ofMessage (Image.square stamp d data).headers data =
        if d.toNat ≤ 0xFFFFFFFF / 4 then .ok (Image.square stamp d data)
        else .error (.wrongSize ((Image.rowBytes d).toNat * d.toNat) data.size) := by
  refine ⟨fun s => ⟨?_, validate_eq_ok_iff, fun hvalid => ?_⟩, fun d size => ?_, ?_⟩
  · have hcount : s.maxCount = 0 ↔ s.maxCount.toNat < 1 :=
      UInt32.toNat_inj.symm.trans Nat.lt_one_iff.symm
    simp only [validate_eq, hcount, maxDimension_lt_iff]
  · have hfits := (validate_eq_ok_iff.mp hvalid).2
    refine ⟨rowBytes_toNat hfits, payloadSize_eq_rows hfits, ?_, rows_lt hfits⟩
    rw [rowBytes_toNat hfits, Nat.mul_assoc]
  · rw [Payload.size?_eq_some_iff, Nat.mul_comm]
  · intro stamp d data hstamp hsize
    have described : (Image.square stamp d data).DescribedBy (Image.square stamp d data).headers :=
      Image.describedBy_of_header (Image.getElem?_headers _) hstamp
    have hfills := Payload.size_eq_rows_iff hsize
    by_cases hfits : d.toNat ≤ 0xFFFFFFFF / 4
    · rw [if_pos hfits, Image.ofMessage_eq_ok_iff]
      exact ⟨described, hfills.mpr hfits, rfl⟩
    · rw [if_neg hfits, Image.ofMessage_reports]
      exact described.firstFound_size fun heq => hfits (hfills.mp heq)

/-- The settings of the widest square image, that image, and the next one, of 2⁶² bytes. -/
theorem valid_dimensions_readable_at_limit :
    let s : Settings := { standard with dimension := 0x3FFFFFFF }
    let zeros (n : Nat) : ByteArray := ⟨Array.replicate n 0⟩
    let widest : Image := Image.square ⟨0, 0⟩ 0x3FFFFFFF (zeros 0x3FFFFFFE00000004)
    let wider : Image := Image.square ⟨0, 0⟩ 0x40000000 (zeros 0x4000000000000000)
    s.validate = .ok () ∧ s.rowBytes.toNat = 0xFFFFFFFC ∧ Stamp.InCalendar ⟨0, 0⟩ ∧
      Image.ofMessage widest.headers widest.data = .ok widest ∧
      Image.ofMessage wider.headers wider.data =
        .error (.wrongSize 0x3FFFFFFFC0000000 0x4000000000000000) := by
  intro s zeros widest wider
  have hsettings := valid_dimensions_readable.1 s
  have hvalid : s.validate = .ok () := hsettings.2.1.mpr (by decide)
  have hrow : s.rowBytes.toNat = 0xFFFFFFFC := (hsettings.2.2 hvalid).1.trans (by decide)
  have hstamp : Stamp.InCalendar ⟨0, 0⟩ := show Stamp.isRepresentable 0 0 = true by decide
  have hzeros (n : Nat) : (zeros n).size = n := Array.size_replicate
  have hwidest := valid_dimensions_readable.2.2 ⟨0, 0⟩ 0x3FFFFFFF (zeros 0x3FFFFFFE00000004) hstamp
    (by rw [hzeros]; decide)
  have hwider := valid_dimensions_readable.2.2 ⟨0, 0⟩ 0x40000000 (zeros 0x4000000000000000) hstamp
    (by rw [hzeros]; decide)
  rw [if_pos (by decide)] at hwidest
  rw [if_neg (by decide), hzeros] at hwider
  exact ⟨hvalid, hrow, hstamp, hwidest, hwider⟩

end Settings

end PacedImages
