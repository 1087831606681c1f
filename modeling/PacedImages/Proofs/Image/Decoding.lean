import PacedImages.Proofs.Image.Headers

/-!
# Decoding undoes encoding

An image is read back from every message that carries its headers and its data, whatever else the
message carries. What is read from a message has a stamp of the calendar and the size that its step
and its height give, so it is read back from its own headers as well, also if the message had
written its numbers in another way.
-/

namespace PacedImages

/-- All headers of `g` stand in `h`, which may have others. -/
def Headers.Carries (h g : Headers) : Prop :=
  ∀ (name value : String), g[name]? = some value → h[name]? = some value

namespace Headers

variable {h g : Headers}

theorem Carries.refl (h : Headers) : h.Carries h := fun _ _ hvalue => hvalue

theorem Carries.insert (carries : h.Carries g) {name : String} (hother : g[name]? = none)
    (value : String) : Carries (h.insert name value) g := by
  intro key text hkey
  have hne : name ≠ key := by
    rintro rfl
    rw [hother] at hkey
    cases hkey
  rw [Std.ExtTreeMap.getElem?_insert, if_neg (by simpa using hne)]
  exact carries key text hkey

end Headers

namespace Image

variable {i : Image} {h : Headers} {payload : ByteArray}

/-- An image is read from headers that carry its own. -/
theorem ofMessage_of_carries (carries : h.Carries i.headers) (hstamp : i.stamp.InCalendar)
    (hsize : i.data.size = i.step.toNat * i.height.toNat) : ofMessage h i.data = .ok i := by
  apply ofMessage_of_header _ hstamp hsize
  intro name
  exact carries _ _ (getElem?_headers i name)

/-- What is read has a stamp of the calendar, and the payload for its data, of the size that its
step and its height give. -/
theorem ofMessage_eq_ok (hread : ofMessage h payload = .ok i) :
    i.stamp.InCalendar ∧ i.data = payload ∧ i.data.size = i.step.toNat * i.height.toNat := by
  have stands := ofMessage_eq_ok_iff.mp hread
  exact ⟨stands.calendar, stands.data, stands.data ▸ stands.size⟩

/-- A row of so many bytes, so many times, fits into 64 bits. -/
theorem size_lt (step height : UInt32) : step.toNat * height.toNat < UInt64.size := by
  have hstep : step.toNat ≤ 0xFFFFFFFF := Nat.le_of_lt_succ step.toNat_lt
  have hheight : height.toNat ≤ 0xFFFFFFFF := Nat.le_of_lt_succ height.toNat_lt
  exact Nat.lt_of_le_of_lt (Nat.mul_le_mul hstep hheight) (by decide)

/-- Every image of the calendar whose data fill it is read back from a message that carries its
headers and its data. Every image that is read from any message fills its data, in 64 bits, and is
read back in the same way. -/
theorem decoding_undoes_encoding :
    (∀ (i : Image) (m : Message), i.stamp.InCalendar →
      i.data.size = i.step.toNat * i.height.toNat →
      m.headers.Carries i.headers → m.payload = i.data →
      ofMessage m.headers m.payload = .ok i) ∧
    ∀ (m : Message) (i : Image), ofMessage m.headers m.payload = .ok i →
      i.data = m.payload ∧ i.data.size = i.step.toNat * i.height.toNat ∧
      i.step.toNat * i.height.toNat < UInt64.size ∧
      ∀ m' : Message, m'.headers.Carries i.headers → m'.payload = i.data →
        ofMessage m'.headers m'.payload = .ok i := by
  constructor
  · intro i m hstamp hsize carries hpayload
    rw [hpayload]
    exact ofMessage_of_carries carries hstamp hsize
  · intro m i hread
    obtain ⟨hstamp, hdata, hsize⟩ := ofMessage_eq_ok hread
    refine ⟨hdata, hsize, size_lt i.step i.height, ?_⟩
    intro m' carries hpayload
    rw [hpayload]
    exact ofMessage_of_carries carries hstamp hsize

/-- A leap second before 1970 with a header besides; and headers with a plus sign, with zeros in
front and with a flag of 7. -/
theorem decoding_undoes_encoding_loose :
    let pixels : ByteArray := ⟨#[1, 2, 3]⟩
    let i : Image := ⟨"frame", ⟨-1, 1500000000⟩, "rgb8", 1, 1, true, 3, pixels⟩
    let loose : Headers := .ofList [("frame_id", "frame"), ("stamp_sec", "-01"),
      ("stamp_nanosec", "+1500000000"), ("encoding", "rgb8"), ("height", "0001"), ("width", "+1"),
      ("is_bigendian", "7"), ("step", "+003")]
    let m : Message := ⟨"image", pixels, i.headers.insert "origin" "camera", 5⟩
    ofMessage m.headers m.payload = .ok i ∧ ofMessage loose pixels = .ok i ∧
      i.data.size = i.step.toNat * i.height.toNat := by
  intro pixels i loose m
  have hother : i.headers["origin"]? = none := by decide +kernel
  have carries : m.headers.Carries i.headers :=
    (Headers.Carries.refl i.headers).insert hother "camera"
  have hstamp : i.stamp.InCalendar := show Stamp.isRepresentable (-1) 1500000000 = true by decide
  have hencoded : ofMessage m.headers m.payload = .ok i :=
    decoding_undoes_encoding.1 i m hstamp (by decide) carries rfl
  have hread : ofMessage loose pixels = .ok i := by with_unfolding_all rfl
  have hsize := decoding_undoes_encoding.2 ⟨"image", pixels, loose, 0⟩ i hread
  exact ⟨hencoded, hread, hsize.2.1⟩

end Image

end PacedImages
