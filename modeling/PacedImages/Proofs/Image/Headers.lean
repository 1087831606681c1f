import PacedImages.Proofs.Image.Reading

/-!
# Images read back from headers

An image with a stamp of the calendar is described by its headers, whatever other headers stand
beside. If its data have as many bytes as its step and its height give, it is read back as it was.
-/

namespace PacedImages

namespace HeaderName

variable {name : HeaderName} {limit : Nat}

theorem text_inj {a b : HeaderName} : a.text = b.text ↔ a = b := by
  cases a <;> cases b <;> decide

theorem IsUnsigned.reads_toString (u : name.IsUnsigned limit) {n : Nat} (hn : n < limit) :
    name.Reads (toString n) n :=
  (u.isReadBy _ _).mpr ⟨n, Text.readNat?_toString hn, rfl⟩

theorem reads_word (u : name.IsUnsigned UInt32.size) (w : UInt32) :
    name.Reads (toString w.toNat) w.toNat :=
  u.reads_toString w.toNat_lt

theorem reads_seconds {s : Stamp} (h : s.InCalendar) :
    seconds.Reads (toString s.seconds) s.seconds :=
  (isReadBy_seconds _ _).mpr
    ⟨s.seconds, Text.readInt?_toString h.seconds_range.1 h.seconds_range.2, rfl⟩

theorem reads_flag (flag : Bool) :
    bigEndian.Reads (if flag then "1" else "0") (if flag then 1 else 0) := by
  cases flag with
  | true => exact isUnsigned_bigEndian.reads_toString (show 1 < UInt8.size by decide)
  | false => exact isUnsigned_bigEndian.reads_toString (show 0 < UInt8.size by decide)

end HeaderName

namespace Image

variable {i : Image}

theorem getElem?_headers (i : Image) (name : HeaderName) :
    i.headers[name.text]? = some (i.header name) := by
  refine Std.ExtTreeMap.getElem?_ofList_of_mem Std.ReflCmp.compare_self ?_ ?_
  · rw [List.pairwise_map]
    have hdistinct : headerNames.Pairwise (· ≠ ·) := by decide
    refine hdistinct.imp fun hne heq => hne ?_
    exact HeaderName.text_inj.mp (Std.LawfulEqCmp.compare_eq_iff_eq.mp heq)
  · exact List.mem_map.mpr ⟨name, by cases name <;> decide, rfl⟩

section

variable {h : Headers}

theorem describedBy_of_header (hh : ∀ name, h[name.text]? = some (i.header name))
    (hstamp : i.stamp.InCalendar) : i.DescribedBy h := by
  have hnanos : i.stamp.nanos < UInt32.size := hstamp.nanos_lt
  exact
    { seconds := ⟨_, hh .seconds, HeaderName.reads_seconds hstamp⟩
      nanos := ⟨_, hh .nanos, HeaderName.isUnsigned_nanos.reads_toString hnanos⟩
      calendar := hstamp
      height := ⟨_, hh .height, HeaderName.reads_word ⟨rfl, rfl, rfl⟩ i.height⟩
      width := ⟨_, hh .width, HeaderName.reads_word ⟨rfl, rfl, rfl⟩ i.width⟩
      step := ⟨_, hh .step, HeaderName.reads_word ⟨rfl, rfl, rfl⟩ i.step⟩
      bigEndian := ⟨_, ⟨_, hh .bigEndian, HeaderName.reads_flag i.bigEndian⟩, by
        cases i.bigEndian <;> rfl⟩
      frameId := hh .frameId
      encoding := hh .encoding }

/-- Headers that give the texts of an image, and its data, are read as that image. -/
theorem ofMessage_of_header (hh : ∀ name, h[name.text]? = some (i.header name))
    (hstamp : i.stamp.InCalendar) (hsize : i.data.size = i.step.toNat * i.height.toNat) :
    ofMessage h i.data = .ok i :=
  ofMessage_eq_ok_iff.mpr ⟨describedBy_of_header hh hstamp, hsize, rfl⟩

end

end Image

end PacedImages
