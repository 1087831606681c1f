import PacedImages.Proofs.Image.Payload
import PacedImages.Publisher.Settings

/-!
# Valid settings

Settings are valid exactly if at least one image is to be sent and a row of an image fits into 32
bits. The payload of such an image then fits into 64 bits, and a row has four bytes a pixel.
-/

namespace PacedImages.Settings

variable {s : Settings}

theorem payloadSize_of_le (h : s.dimension.toNat ≤ 0xFFFFFFFF / 4) :
    s.payloadSize = .ok (s.dimension.toNat * s.dimension.toNat * 4) := by
  have hsquare : s.dimension.toNat * s.dimension.toNat ≤ (0xFFFFFFFF / 4) * (0xFFFFFFFF / 4) :=
    Nat.mul_le_mul h h
  have hfits : s.dimension.toNat * s.dimension.toNat * 4 < UInt64.size := by
    simp only [UInt64.size]
    omega
  rw [payloadSize, Payload.size?_eq_some_iff.mpr ⟨rfl, hfits⟩]

theorem maxDimension_lt_iff : maxDimension < s.dimension ↔ 0xFFFFFFFF / 4 < s.dimension.toNat := by
  rw [UInt32.lt_iff_toNat_lt]
  rfl

/-- The payload of a row that fits is never too large. -/
theorem validate_eq :
    s.validate =
      if s.maxCount = 0 then .error .noImages
      else if maxDimension < s.dimension then .error (.rowTooLong s.dimension)
      else .ok () := by
  rw [validate]
  by_cases hnone : s.maxCount = 0
  · rw [if_pos hnone, if_pos hnone]
    rfl
  · rw [if_neg hnone, if_neg hnone]
    by_cases hrow : maxDimension < s.dimension
    · rw [if_pos hrow, if_pos hrow]
      rfl
    · have hle := Nat.le_of_not_lt fun hlt => hrow (maxDimension_lt_iff.mpr hlt)
      rw [if_neg hrow, if_neg hrow, payloadSize_of_le hle]
      rfl

/-- Only the number of images and the width of a row can be wrong, and the first one counts. -/
theorem validate_cases (s : Settings) :
    s.maxCount.toNat = 0 ∧ s.validate = .error .noImages ∨
    1 ≤ s.maxCount.toNat ∧ 0xFFFFFFFF / 4 < s.dimension.toNat ∧
      s.validate = .error (.rowTooLong s.dimension) ∨
    1 ≤ s.maxCount.toNat ∧ s.dimension.toNat ≤ 0xFFFFFFFF / 4 ∧ s.validate = .ok () := by
  have hcount : s.maxCount = 0 ↔ s.maxCount.toNat = 0 := UInt32.toNat_inj.symm
  rw [validate_eq]
  by_cases hnone : s.maxCount = 0
  · rw [if_pos hnone]
    exact .inl ⟨hcount.mp hnone, rfl⟩
  · have hpos : 1 ≤ s.maxCount.toNat := Nat.pos_of_ne_zero fun h => hnone (hcount.mpr h)
    rw [if_neg hnone]
    by_cases hrow : maxDimension < s.dimension
    · rw [if_pos hrow]
      exact .inr (.inl ⟨hpos, maxDimension_lt_iff.mp hrow, rfl⟩)
    · rw [if_neg hrow]
      have hle := Nat.le_of_not_lt fun hlt => hrow (maxDimension_lt_iff.mpr hlt)
      exact .inr (.inr ⟨hpos, hle, rfl⟩)

theorem validate_eq_ok_iff :
    s.validate = .ok () ↔ 1 ≤ s.maxCount.toNat ∧ s.dimension.toNat ≤ 0xFFFFFFFF / 4 := by
  rcases s.validate_cases with ⟨hzero, heq⟩ | ⟨hpos, hlt, heq⟩ | ⟨hpos, hle, heq⟩
  · rw [heq]
    exact ⟨nofun, fun h => by omega⟩
  · rw [heq]
    exact ⟨nofun, fun h => by omega⟩
  · exact ⟨fun _ => ⟨hpos, hle⟩, fun _ => heq⟩

theorem validate_eq_error_iff {fault : SettingsFault} :
    s.validate = .error fault ↔
      s.maxCount.toNat = 0 ∧ fault = .noImages ∨
      1 ≤ s.maxCount.toNat ∧ 0xFFFFFFFF / 4 < s.dimension.toNat ∧
        fault = .rowTooLong s.dimension := by
  rcases s.validate_cases with ⟨hzero, heq⟩ | ⟨hpos, hlt, heq⟩ | ⟨hpos, hle, heq⟩
  · rw [heq, Except.error.injEq, eq_comm]
    exact ⟨fun h => .inl ⟨hzero, h⟩, fun h => h.elim (·.2) fun h => by omega⟩
  · rw [heq, Except.error.injEq, eq_comm]
    exact ⟨fun h => .inr ⟨hpos, hlt, h⟩, fun h => h.elim (fun h => by omega) (·.2.2)⟩
  · rw [heq]
    exact ⟨nofun, fun h => by omega⟩

/-- A row that fits has four bytes a pixel. -/
theorem rowBytes_toNat (h : s.dimension.toNat ≤ 0xFFFFFFFF / 4) :
    s.rowBytes.toNat = 4 * s.dimension.toNat := by
  rw [rowBytes, Image.rowBytes_toNat]
  omega

end PacedImages.Settings
