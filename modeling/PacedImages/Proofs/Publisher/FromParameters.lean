import PacedImages.Proofs.Image.Reading
import PacedImages.Proofs.Param.Lookup
import PacedImages.Proofs.Param.Precedence
import PacedImages.Proofs.Publisher.Settings

/-!
# Settings from parameters

Six fields are looked up, each by its kind. If all fit, the set describes settings, each field of
which is what the set says or its default; they are returned exactly if they are valid. If one does
not fit, the first one in the order of the lookups is reported. Settings of whole milliseconds can be
written down as parameters and are read back from them.
-/

namespace PacedImages

namespace Settings

/-- The parameters in the order in which they are looked up, each with its kind. -/
def fields : List (String × Kind) :=
  [("dt", .word64), ("max_count", .word32), ("dimensions", .word32), ("delay", .word64),
    ("benchmark_path", .text), ("seed", .word64)]

/-- The set says the settings, a lacking name its default. Durations are said in milliseconds. -/
structure DescribedBy (s : Settings) (p : Parameters) : Prop where
  period : ∃ dt, p.Says "dt" Value.ofWord64 10 dt ∧ s.period = Time.millis dt.toNat
  maxCount : p.Says "max_count" Value.ofWord32 100 s.maxCount
  dimension : p.Says "dimensions" Value.ofWord32 1024 s.dimension
  startDelay : ∃ delay, p.Says "delay" Value.ofWord64 0 delay ∧
    s.startDelay = Time.millis delay.toNat
  reportPath : p.Says "benchmark_path" Value.text "" s.reportPath
  seed : p.Gives "seed" Value.ofWord64 s.seed

variable {s : Settings} {p q : Parameters}

theorem read_reports (p : Parameters) : p.Reports fields (read p) := by
  refine (Parameters.getOr_reports Reader.word64_undoes 10).bind fun dt _ => ?_
  refine (Parameters.getOr_reports Reader.word32_undoes _).bind fun maxCount _ => ?_
  refine (Parameters.getOr_reports Reader.word32_undoes _).bind fun dimension _ => ?_
  refine (Parameters.getOr_reports Reader.word64_undoes 0).bind fun delay _ => ?_
  refine (Parameters.getOr_reports Reader.text_undoes _).bind fun reportPath _ => ?_
  exact (Parameters.getOpt_reports Reader.word64_undoes).bind fun seed _ => .ok _

theorem read_eq_ok_iff : read p = .ok s ↔ s.DescribedBy p := by
  simp only [read, bind_eq_ok_iff, Parameters.getOr_eq_ok_iff Reader.word64_undoes,
    Parameters.getOr_eq_ok_iff Reader.word32_undoes, Parameters.getOr_eq_ok_iff Reader.text_undoes,
    Parameters.getOpt_eq_ok_iff Reader.word64_undoes]
  constructor
  · rintro ⟨dt, hdt, maxCount, hcount, dimension, hdimension, delay, hdelay, path, hpath, seed, hseed,
      ⟨⟩⟩
    exact ⟨⟨dt, hdt, rfl⟩, hcount, hdimension, ⟨delay, hdelay, rfl⟩, hpath, hseed⟩
  · rintro ⟨⟨dt, hdt, hperiod⟩, hcount, hdimension, ⟨delay, hdelay, hstart⟩, hpath, hseed⟩
    refine ⟨dt, hdt, _, hcount, _, hdimension, delay, hdelay, _, hpath, _, hseed, ?_⟩
    rw [← hperiod, ← hstart]
    rfl

/-- A set describes settings exactly if all six values fit. -/
theorem exists_describedBy_iff :
    (∃ s : Settings, s.DescribedBy p) ↔ ∀ field ∈ fields, p.Fits field := by
  rw [← (read_reports p).ok_iff]
  simp only [read_eq_ok_iff]

theorem DescribedBy.eq {s' : Settings} (described : s.DescribedBy p)
    (described' : s'.DescribedBy p) : s = s' :=
  Except.ok.inj ((read_eq_ok_iff.mpr described).symm.trans (read_eq_ok_iff.mpr described'))

/-! ## Settings read and checked -/

theorem ofParameters_of_misfit {misfit : ParamError} (hfound : p.FirstMisfit fields misfit) :
    ofParameters p = .error (.param misfit) := by
  rw [ofParameters, (read_reports p).error_iff.mpr hfound]
  rfl

theorem ofParameters_of_describedBy (described : s.DescribedBy p) :
    ofParameters p = s.validate.mapError .invalidSettings >>= fun _ => .ok s := by
  rw [ofParameters, read_eq_ok_iff.mpr described]
  rfl

theorem ofParameters_of_valid (described : s.DescribedBy p) (hvalid : s.validate = .ok ()) :
    ofParameters p = .ok s := by
  rw [ofParameters_of_describedBy described, hvalid]
  rfl

theorem ofParameters_of_invalid {fault : SettingsFault} (described : s.DescribedBy p)
    (hfault : s.validate = .error fault) : ofParameters p = .error (.invalidSettings fault) := by
  rw [ofParameters_of_describedBy described, hfault]
  rfl

/-- A value does not fit, or the set describes settings. -/
theorem misfit_or_describedBy (p : Parameters) :
    (∃ misfit, p.FirstMisfit fields misfit) ∨ ∃ s : Settings, s.DescribedBy p := by
  cases hread : read p with
  | error misfit => exact .inl ⟨misfit, (read_reports p).error_iff.mp hread⟩
  | ok s => exact .inr ⟨s, read_eq_ok_iff.mp hread⟩

theorem ofParameters_eq_ok_iff :
    ofParameters p = .ok s ↔
      s.DescribedBy p ∧ 1 ≤ s.maxCount.toNat ∧ s.dimension.toNat ≤ 0xFFFFFFFF / 4 := by
  rw [← validate_eq_ok_iff]
  constructor
  · intro hok
    rcases misfit_or_describedBy p with ⟨misfit, hfound⟩ | ⟨s', described⟩
    · cases (ofParameters_of_misfit hfound).symm.trans hok
    · cases hvalid : s'.validate with
      | error fault => cases (ofParameters_of_invalid described hvalid).symm.trans hok
      | ok =>
        cases (ofParameters_of_valid described hvalid).symm.trans hok
        exact ⟨described, hvalid⟩
  · rintro ⟨described, hvalid⟩
    exact ofParameters_of_valid described hvalid

/-- What is wrong with a set: a value that does not fit, and only if all fit what they say. -/
theorem ofParameters_eq_error_iff {e : WorkerError} :
    ofParameters p = .error e ↔
      (∃ misfit, p.FirstMisfit fields misfit ∧ e = .param misfit) ∨
      ∃ s : Settings, s.DescribedBy p ∧
        (s.maxCount.toNat = 0 ∧ e = .invalidSettings .noImages ∨
          1 ≤ s.maxCount.toNat ∧ 0xFFFFFFFF / 4 < s.dimension.toNat ∧
            e = .invalidSettings (.rowTooLong s.dimension)) := by
  constructor
  · intro herror
    rcases misfit_or_describedBy p with ⟨misfit, hfound⟩ | ⟨s, described⟩
    · cases (ofParameters_of_misfit hfound).symm.trans herror
      exact .inl ⟨misfit, hfound, rfl⟩
    · rcases s.validate_cases with ⟨hzero, hfault⟩ | ⟨hpos, hlt, hfault⟩ | ⟨-, -, hvalid⟩
      · cases (ofParameters_of_invalid described hfault).symm.trans herror
        exact .inr ⟨s, described, .inl ⟨hzero, rfl⟩⟩
      · cases (ofParameters_of_invalid described hfault).symm.trans herror
        exact .inr ⟨s, described, .inr ⟨hpos, hlt, rfl⟩⟩
      · cases (ofParameters_of_valid described hvalid).symm.trans herror
  · rintro (⟨misfit, hfound, rfl⟩ | ⟨s, described, ⟨hzero, rfl⟩ | ⟨hpos, hlt, rfl⟩⟩)
    · exact ofParameters_of_misfit hfound
    · exact ofParameters_of_invalid described (validate_eq_error_iff.mpr (.inl ⟨hzero, rfl⟩))
    · exact ofParameters_of_invalid described (validate_eq_error_iff.mpr (.inr ⟨hpos, hlt, rfl⟩))

theorem exists_ofParameters_iff :
    (∃ s, ofParameters p = .ok s) ↔
      (∀ field ∈ fields, p.Fits field) ∧
      ∀ s : Settings, s.DescribedBy p →
        1 ≤ s.maxCount.toNat ∧ s.dimension.toNat ≤ 0xFFFFFFFF / 4 := by
  constructor
  · rintro ⟨s, hread⟩
    obtain ⟨described, hbounds⟩ := ofParameters_eq_ok_iff.mp hread
    refine ⟨exists_describedBy_iff.mp ⟨s, described⟩, fun s' described' => ?_⟩
    rw [described'.eq described]
    exact hbounds
  · rintro ⟨hfits, hbounds⟩
    obtain ⟨s, described⟩ := exists_describedBy_iff.mpr hfits
    exact ⟨s, ofParameters_eq_ok_iff.mpr ⟨described, hbounds s described⟩⟩

/-! ## Writing settings down -/

/-- The settings as six values, durations in milliseconds. No seed is null. -/
def toFields (s : Settings) : List (String × Value) :=
  [("dt", .int ↑(s.period / Time.nanosPerMilli)),
    ("max_count", .ofWord32 s.maxCount),
    ("dimensions", .ofWord32 s.dimension),
    ("delay", .int ↑(s.startDelay / Time.nanosPerMilli)),
    ("benchmark_path", .text s.reportPath),
    ("seed", s.seed.elim .null .ofWord64)]

def toParameters (s : Settings) : Parameters := (∅ : Parameters).insertAll s.toFields

/-- Settings of whole milliseconds that 64 bits can count. -/
structure IsWhole (s : Settings) : Prop where
  period : ∃ dt : UInt64, s.period = Time.millis dt.toNat
  startDelay : ∃ delay : UInt64, s.startDelay = Time.millis delay.toNat

theorem millis_div (n : Nat) : Time.millis n / Time.nanosPerMilli = n :=
  Nat.mul_div_cancel n (by decide)

theorem describedBy_toParameters (whole : s.IsWhole) : s.DescribedBy s.toParameters := by
  obtain ⟨⟨dt, hperiod⟩, delay, hdelay⟩ := whole
  have hentry (name : String) := Parameters.getElem?_entries_insertAll ∅ s.toFields name
  have hdt : s.toParameters.entries["dt"]? = some (.ofWord64 dt) := by
    rw [Value.ofWord64, ← millis_div dt.toNat, ← hperiod]
    exact hentry _
  have hstart : s.toParameters.entries["delay"]? = some (.ofWord64 delay) := by
    rw [Value.ofWord64, ← millis_div delay.toNat, ← hdelay]
    exact hentry _
  have hseed : s.toParameters.Gives "seed" Value.ofWord64 s.seed :=
    Parameters.gives_of_entry (hentry _)
  exact ⟨⟨dt, .inr hdt, hperiod⟩, .inr (hentry _), .inr (hentry _), ⟨delay, .inr hstart, hdelay⟩,
    .inr (hentry _), hseed⟩

/-- Settings are read from a set of parameters exactly if each of the six is lacking or a value of its
kind and the settings so described are valid. A lacking parameter takes its default and no other
does, parameters of other names do not matter, and otherwise the first misfit is reported, or if all
six fit what is invalid. Valid settings of whole milliseconds are read back from the parameters they
are written down as. -/
theorem ofParameters_accepts_valid :
    (∀ p : Parameters, (∃ s, ofParameters p = .ok s) ↔
      (∀ field ∈ fields, p.Fits field) ∧
      ∀ s : Settings, s.DescribedBy p →
        1 ≤ s.maxCount.toNat ∧ s.dimension.toNat ≤ 0xFFFFFFFF / 4) ∧
    (∀ (p : Parameters) (s : Settings), ofParameters p = .ok s ↔
      s.DescribedBy p ∧ 1 ≤ s.maxCount.toNat ∧ s.dimension.toNat ≤ 0xFFFFFFFF / 4) ∧
    (∀ (p : Parameters) (s : Settings), ofParameters p = .ok s → s.validate = .ok ()) ∧
    (∀ (p : Parameters) (e : WorkerError), ofParameters p = .error e ↔
      (∃ misfit, p.FirstMisfit fields misfit ∧ e = .param misfit) ∨
      ∃ s : Settings, s.DescribedBy p ∧
        (s.maxCount.toNat = 0 ∧ e = .invalidSettings .noImages ∨
          1 ≤ s.maxCount.toNat ∧ 0xFFFFFFFF / 4 < s.dimension.toNat ∧
            e = .invalidSettings (.rowTooLong s.dimension))) ∧
    (∀ p q : Parameters, (∀ field ∈ fields, p.get? field.1 = q.get? field.1) →
      ofParameters p = ofParameters q) ∧
    ∀ s : Settings, s.validate = .ok () → s.IsWhole → ofParameters s.toParameters = .ok s := by
  refine ⟨fun p => exists_ofParameters_iff, fun p s => ofParameters_eq_ok_iff, fun p s hok => ?_,
    fun p e => ofParameters_eq_error_iff, fun p q hsame => ?_, fun s hvalid whole => ?_⟩
  · exact validate_eq_ok_iff.mpr (ofParameters_eq_ok_iff.mp hok).2
  · apply ofParameters_congr
    simpa [names, fields] using hsame
  · exact ofParameters_of_valid (describedBy_toParameters whole) hvalid

/-- The largest values that settings can have, beside a name that nothing is read from. -/
def largest : Parameters :=
  .ofList
    [("benchmark_path", .null), ("dimensions", .int 0x3FFFFFFF), ("dt", .int 0xFFFFFFFFFFFFFFFF),
      ("max_count", .int 0xFFFFFFFF), ("rate", .bool true), ("seed", .int 0xFFFFFFFFFFFFFFFF)]

/-- The largest values are read, a null path and a lacking delay being their defaults. A delay one
larger is reported, and not the path after it; a wider image is invalid if all values fit. -/
theorem ofParameters_accepts_valid_at_limits :
    let s : Settings := {
      standard with
      period := Time.millis 0xFFFFFFFFFFFFFFFF
      maxCount := 0xFFFFFFFF
      dimension := 0x3FFFFFFF
      seed := some 0xFFFFFFFFFFFFFFFF }
    let late := largest.insert "delay" (.int 0x10000000000000000)
    let wide := largest.insert "dimensions" (.int 0x40000000)
    ofParameters largest = .ok s ∧ ofParameters s.toParameters = .ok s ∧
      ofParameters (late.insert "benchmark_path" (.list [])) =
        .error (.param (.wrongType (.parameter "delay" ⟨.int 0x10000000000000000, .word64⟩))) ∧
      ofParameters wide = .error (.invalidSettings (.rowTooLong 0x40000000)) := by
  intro s late wide
  obtain ⟨-, hok, hvalid, herror, -, hback⟩ := ofParameters_accepts_valid
  have whole : s.IsWhole := ⟨⟨0xFFFFFFFFFFFFFFFF, rfl⟩, ⟨0, rfl⟩⟩
  have hdt : largest.Says "dt" Value.ofWord64 10 0xFFFFFFFFFFFFFFFF := .inr rfl
  have hdelay : largest.Says "delay" Value.ofWord64 0 0 := .inl ⟨.inl rfl, rfl⟩
  have described : s.DescribedBy largest :=
    ⟨⟨_, hdt, rfl⟩, .inr rfl, .inr rfl, ⟨_, hdelay, rfl⟩, .inl ⟨.inr rfl, rfl⟩, rfl⟩
  have hdtWide : wide.Says "dt" Value.ofWord64 10 0xFFFFFFFFFFFFFFFF := .inr rfl
  have hdelayWide : wide.Says "delay" Value.ofWord64 0 0 := .inl ⟨.inl rfl, rfl⟩
  have hwide : { s with dimension := 0x40000000 }.DescribedBy wide :=
    ⟨⟨_, hdtWide, rfl⟩, .inr rfl, .inr rfl, ⟨_, hdelayWide, rfl⟩, .inl ⟨.inr rfl, rfl⟩, rfl⟩
  have hread : ofParameters largest = .ok s := (hok _ _).mpr ⟨described, by decide, by decide⟩
  refine ⟨hread, hback s (hvalid _ _ hread) whole, ?_, ?_⟩
  · exact (herror _ _).mpr (.inl ⟨_, Parameters.findSome?_misfit?.mp rfl, rfl⟩)
  · exact (herror _ _).mpr (.inr ⟨_, hwide, .inr ⟨by decide, by decide, rfl⟩⟩)

end Settings

end PacedImages
