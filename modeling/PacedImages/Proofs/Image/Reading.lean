import PacedImages.Image.Basic
import PacedImages.Proofs.Image.Stamp
import PacedImages.Proofs.Text.Numeral

/-!
# Images in messages

What a message must hold to be read as an image: all eight headers, numerals of numbers in range
where numbers are read, a stamp of the calendar, and as many bytes as the step and the height give.
An image is read from a message exactly if it stands in it in this sense.
-/

namespace PacedImages

/-- The least number that a header can give. -/
def HeaderName.least : HeaderName → Int
  | .seconds => -0x8000000000000000
  | _ => 0

/-- The largest number that a header can give. -/
def HeaderName.most : HeaderName → Int
  | .seconds => 0x7FFFFFFFFFFFFFFF
  | .bigEndian => 0xFF
  | _ => 0xFFFFFFFF

/-- The text of a header is a numeral of a number that it can give; seconds are signed. -/
structure HeaderName.Reads (name : HeaderName) (text : String) (n : Int) : Prop where
  spells : Text.Spells (name == .seconds) text.toList n
  least : name.least ≤ n
  most : n ≤ name.most

def Headers.Gives (h : Headers) (name : HeaderName) (n : Int) : Prop :=
  ∃ text, h[name.text]? = some text ∧ name.Reads text n

/-- The headers of a message describe the image. A flag is any number of a byte, and set if it is
not zero. -/
structure Image.DescribedBy (i : Image) (h : Headers) : Prop where
  seconds : h.Gives .seconds i.stamp.seconds
  nanos : h.Gives .nanos i.stamp.nanos
  calendar : i.stamp.InCalendar
  height : h.Gives .height i.height.toNat
  width : h.Gives .width i.width.toNat
  step : h.Gives .step i.step.toNat
  bigEndian : ∃ flag : Int, h.Gives .bigEndian flag ∧ i.bigEndian = decide (flag ≠ 0)
  frameId : h[HeaderName.frameId.text]? = some i.frameId
  encoding : h[HeaderName.encoding.text]? = some i.encoding

/-- The image stands in the headers and the payload of a message. -/
structure Image.StandsIn (i : Image) (h : Headers) (payload : ByteArray) : Prop
    extends i.DescribedBy h where
  size : payload.size = i.step.toNat * i.height.toNat
  data : i.data = payload

theorem exists_of_bind_eq_ok {ε α γ : Type} {x : Except ε α} {f : α → Except ε γ} {c : γ}
    (h : x >>= f = .ok c) : ∃ a, x = .ok a ∧ f a = .ok c := by
  cases x with
  | error e => cases h
  | ok a => exact ⟨a, rfl, h⟩

theorem bind_eq_ok_iff {ε α γ : Type} {x : Except ε α} {f : α → Except ε γ} {c : γ} :
    x >>= f = .ok c ↔ ∃ a, x = .ok a ∧ f a = .ok c := by
  constructor
  · exact exists_of_bind_eq_ok
  · rintro ⟨a, rfl, hf⟩
    exact hf

/-! ## Readers of headers -/

/-- A reader takes exactly the texts that a header can have for a number. -/
def HeaderName.IsReadBy {α : Type} (name : HeaderName) (read? : List Char → Option α)
    (value : α → Int) : Prop :=
  ∀ (text : String) (n : Int),
    name.Reads text n ↔ ∃ a, read? text.toList = some a ∧ value a = n

/-- The header gives unsigned numbers below a limit. -/
structure HeaderName.IsUnsigned (name : HeaderName) (limit : Nat) : Prop where
  unsigned : (name == .seconds) = false
  least : name.least = 0
  most : name.most + 1 = limit

namespace HeaderName

variable {name : HeaderName} {limit : Nat}

theorem isUnsigned_nanos : nanos.IsUnsigned UInt32.size := ⟨rfl, rfl, rfl⟩

theorem isUnsigned_bigEndian : bigEndian.IsUnsigned UInt8.size := ⟨rfl, rfl, rfl⟩

theorem isReadBy_seconds :
    seconds.IsReadBy (Text.readInt? (-0x8000000000000000) 0x7FFFFFFFFFFFFFFF) id := by
  intro text n
  have hread := @Text.readInt?_eq_some_iff text.toList (-0x8000000000000000) 0x7FFFFFFFFFFFFFFF n
  constructor
  · intro reads
    exact ⟨n, hread.mpr ⟨reads.spells, reads.least, reads.most⟩, rfl⟩
  · rintro ⟨_, hn, rfl⟩
    obtain ⟨spells, hleast, hmost⟩ := hread.mp hn
    exact ⟨spells, hleast, hmost⟩

theorem IsUnsigned.isReadBy (u : name.IsUnsigned limit) :
    name.IsReadBy (Text.readNat? limit) (fun n => (n : Int)) := by
  intro text n
  have hlimit := u.most
  constructor
  · intro reads
    obtain ⟨k, rfl⟩ := Int.eq_ofNat_of_zero_le (u.least ▸ reads.least)
    refine ⟨k, Text.readNat?_eq_some_iff.mpr ⟨u.unsigned ▸ reads.spells, ?_⟩, rfl⟩
    have hmost := reads.most
    omega
  · rintro ⟨k, hk, rfl⟩
    obtain ⟨spells, hlt⟩ := Text.readNat?_eq_some_iff.mp hk
    have hmost : (k : Int) ≤ name.most := by omega
    exact ⟨u.unsigned ▸ spells, u.least ▸ Int.natCast_nonneg k, hmost⟩

end HeaderName

namespace Headers

variable {h : Headers} {name : HeaderName} {n : Int}

theorem find_eq_ok_iff {text : String} : find h name = .ok text ↔ h[name.text]? = some text := by
  rw [find]
  cases h[name.text]? with
  | none => exact ⟨nofun, nofun⟩
  | some value => simp

/-- A header gives no two numbers. -/
theorem Gives.eq {m : Int} (gives : h.Gives name n) (gives' : h.Gives name m) : n = m := by
  obtain ⟨text, htext, reads⟩ := gives
  obtain ⟨text', htext', reads'⟩ := gives'
  obtain rfl : text = text' := Option.some.inj (htext.symm.trans htext')
  exact reads.spells.eq reads'.spells

section

variable {α : Type} {read? : List Char → Option α} {value : α → Int}

theorem number_eq_ok (hread : name.IsReadBy read? value) {a : α}
    (hnumber : number h name read? = .ok a) : h.Gives name (value a) := by
  obtain ⟨text, hfind, hnumber⟩ := exists_of_bind_eq_ok hnumber
  refine ⟨text, find_eq_ok_iff.mp hfind, (hread text _).mpr ?_⟩
  cases ha : read? text.toList with
  | none =>
    rw [ha] at hnumber
    cases hnumber
  | some b =>
    rw [ha] at hnumber
    cases hnumber
    exact ⟨a, rfl, rfl⟩

theorem Gives.number (hread : name.IsReadBy read? value) (gives : h.Gives name n) :
    ∃ a, number h name read? = .ok a ∧ value a = n := by
  obtain ⟨text, htext, reads⟩ := gives
  obtain ⟨a, ha, hvalue⟩ := (hread text n).mp reads
  refine ⟨a, ?_, hvalue⟩
  simp only [Headers.number, find_eq_ok_iff.mpr htext, bind, Except.bind, ha]
  rfl

end

theorem word_eq_ok (u : name.IsUnsigned UInt32.size) {w : UInt32} (hword : word h name = .ok w) :
    h.Gives name w.toNat := by
  obtain ⟨n, hnumber, hw⟩ := exists_of_bind_eq_ok hword
  obtain ⟨text, htext, reads⟩ := number_eq_ok u.isReadBy hnumber
  have hlt : n < UInt32.size := by
    have hmost := reads.most
    have hlimit := u.most
    omega
  cases hw
  rw [UInt32.toNat_ofNat_of_lt' hlt]
  exact ⟨text, htext, reads⟩

theorem Gives.word (u : name.IsUnsigned UInt32.size) {k : Nat} (gives : h.Gives name k) :
    word h name = .ok (UInt32.ofNat k) := by
  obtain ⟨n, hnumber, hn⟩ := gives.number u.isReadBy
  obtain rfl : n = k := Int.ofNat_inj.mp hn
  rw [Headers.word, hnumber]
  rfl

theorem seconds_eq_ok {n : Int} (hseconds : seconds h = .ok n) : h.Gives .seconds n :=
  number_eq_ok HeaderName.isReadBy_seconds hseconds

theorem Gives.seconds (gives : h.Gives .seconds n) : Headers.seconds h = .ok n := by
  obtain ⟨_, hnumber, rfl⟩ := gives.number HeaderName.isReadBy_seconds
  exact hnumber

theorem stamp_eq_ok_iff {s : Stamp} :
    stamp h = .ok s ↔ h.Gives .seconds s.seconds ∧ h.Gives .nanos s.nanos ∧ s.InCalendar := by
  constructor
  · intro hs
    obtain ⟨seconds, hseconds, hs⟩ := exists_of_bind_eq_ok hs
    obtain ⟨nanos, hnanos, hs⟩ := exists_of_bind_eq_ok hs
    by_cases hthere : Stamp.isRepresentable seconds nanos.toNat = true
    · simp only [Stamp.ofParts?, if_pos hthere] at hs
      cases hs
      exact ⟨seconds_eq_ok hseconds, word_eq_ok HeaderName.isUnsigned_nanos hnanos, hthere⟩
    · simp only [Stamp.ofParts?, if_neg hthere] at hs
      cases hs
  · rintro ⟨hseconds, hnanos, hthere⟩
    have hkept : (UInt32.ofNat s.nanos).toNat = s.nanos :=
      UInt32.toNat_ofNat_of_lt' hthere.nanos_lt
    have hparts : Stamp.ofParts? s.seconds s.nanos = some s := if_pos hthere
    have hword := hnanos.word HeaderName.isUnsigned_nanos
    simp only [stamp, hseconds.seconds, hword, bind, Except.bind, hkept, hparts]
    rfl

end Headers

namespace Image

variable {i : Image} {h : Headers} {payload : ByteArray}

theorem ofMessage_eq_ok_iff : ofMessage h payload = .ok i ↔ i.StandsIn h payload := by
  constructor
  · intro hread
    obtain ⟨stamp, hstamp, hread⟩ := exists_of_bind_eq_ok hread
    obtain ⟨height, hheight, hread⟩ := exists_of_bind_eq_ok hread
    obtain ⟨width, hwidth, hread⟩ := exists_of_bind_eq_ok hread
    obtain ⟨step, hstep, hread⟩ := exists_of_bind_eq_ok hread
    obtain ⟨flag, hflag, hread⟩ := exists_of_bind_eq_ok hread
    by_cases hsize : payload.size = step.toNat * height.toNat
    · simp only [hsize, ne_eq, not_true_eq_false, if_false] at hread
      obtain ⟨frameId, hframe, hread⟩ := exists_of_bind_eq_ok hread
      obtain ⟨encoding, hencoding, hread⟩ := exists_of_bind_eq_ok hread
      cases hread
      obtain ⟨hseconds, hnanos, hthere⟩ := Headers.stamp_eq_ok_iff.mp hstamp
      have hunsigned := HeaderName.isUnsigned_bigEndian
      exact
        { seconds := hseconds
          nanos := hnanos
          calendar := hthere
          height := Headers.word_eq_ok ⟨rfl, rfl, rfl⟩ hheight
          width := Headers.word_eq_ok ⟨rfl, rfl, rfl⟩ hwidth
          step := Headers.word_eq_ok ⟨rfl, rfl, rfl⟩ hstep
          bigEndian := ⟨flag, Headers.number_eq_ok hunsigned.isReadBy hflag, by simp⟩
          size := hsize
          frameId := Headers.find_eq_ok_iff.mp hframe
          encoding := Headers.find_eq_ok_iff.mp hencoding
          data := rfl }
    · simp only [ne_eq, hsize, not_false_eq_true, if_true] at hread
      cases hread
  · intro stands
    have hstamp := Headers.stamp_eq_ok_iff.mpr ⟨stands.seconds, stands.nanos, stands.calendar⟩
    have hheight := stands.height.word ⟨rfl, rfl, rfl⟩
    have hwidth := stands.width.word ⟨rfl, rfl, rfl⟩
    have hstep := stands.step.word ⟨rfl, rfl, rfl⟩
    obtain ⟨_, hgives, hbig⟩ := stands.bigEndian
    obtain ⟨flag, hflag, rfl⟩ := hgives.number HeaderName.isUnsigned_bigEndian.isReadBy
    have hset : i.bigEndian = decide (flag ≠ 0) := by simpa using hbig
    have hframe := Headers.find_eq_ok_iff.mpr stands.frameId
    have hencoding := Headers.find_eq_ok_iff.mpr stands.encoding
    rw [UInt32.ofNat_toNat] at hheight hwidth hstep
    simp only [ofMessage, hstamp, hheight, hwidth, hstep, hflag, hframe, hencoding, stands.size,
      bind, Except.bind, pure, Except.pure, ne_eq, not_true_eq_false, if_false]
    simp only [← ne_eq, ← hset, ← stands.data]

end Image

end PacedImages
