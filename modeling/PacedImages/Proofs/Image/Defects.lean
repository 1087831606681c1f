import PacedImages.Proofs.Image.Reading

/-!
# The first defect of a message

A message that is no image is reported with one error, also if it has several defects. The checks
stand in the order in which they are made: the stamp with its calendar, the numbers of the layout,
the size of the payload, the texts. The error is what the first failing check finds.
-/

namespace PacedImages.Image

inductive Check where
  | number (name : HeaderName)
  | calendar
  | size
  | text (name : HeaderName)

/-- The checks in their order. -/
def checks : List Check :=
  [.number .seconds, .number .nanos, .calendar, .number .height, .number .width, .number .step,
    .number .bigEndian, .size, .text .frameId, .text .encoding]

/-- The defect that a check finds in a message. The calendar and the size are checked of numbers
that the headers give; a stamp that the calendar lacks is shown with nine places. -/
inductive Finds (h : Headers) (payload : ByteArray) : Check → MessageError → Prop where
  | noNumber {name : HeaderName} : h[name.text]? = none →
      Finds h payload (.number name) (.missing name)
  | unreadable {name : HeaderName} {text : String} : h[name.text]? = some text →
      (∀ n, ¬ name.Reads text n) → Finds h payload (.number name) (.unreadable name text)
  | calendar {seconds : Int} {nanos : Nat} : h.Gives .seconds seconds → h.Gives .nanos nanos →
      ¬ Stamp.InCalendar ⟨seconds, nanos⟩ →
      Finds h payload .calendar (.unreadable .seconds
        (toString seconds ++ "." ++ String.ofList ((Nat.toDigits 10 nanos).leftpad 9 '0')))
  | size {step height : Nat} : h.Gives .step step → h.Gives .height height →
      payload.size ≠ step * height →
      Finds h payload .size (.wrongSize (step * height) payload.size)
  | noText {name : HeaderName} : h[name.text]? = none →
      Finds h payload (.text name) (.missing name)

/-- The defect of the first of some checks that finds one. -/
inductive FirstFound (h : Headers) (payload : ByteArray) : List Check → MessageError → Prop where
  | here {check : Check} {rest : List Check} {e : MessageError} : Finds h payload check e →
      FirstFound h payload (check :: rest) e
  | later {check : Check} {rest : List Check} {e : MessageError} :
      (∀ e', ¬ Finds h payload check e') → FirstFound h payload rest e →
      FirstFound h payload (check :: rest) e

/-- A result is an error exactly if some check finds a defect, and then it is the first. -/
def Reports (h : Headers) (payload : ByteArray) (checks : List Check) {α : Type}
    (x : Except MessageError α) : Prop :=
  ∀ e, x = .error e ↔ FirstFound h payload checks e

variable {h : Headers} {payload : ByteArray} {check : Check} {before after : List Check}
  {e : MessageError} {name : HeaderName}

/-- A check finds no two defects. -/
theorem Finds.eq {e' : MessageError} (finds : Finds h payload check e)
    (finds' : Finds h payload check e') : e = e' := by
  cases finds with
  | noNumber hnone =>
    cases finds' with
    | noNumber _ => rfl
    | unreadable htext _ => cases hnone.symm.trans htext
  | unreadable htext _ =>
    cases finds' with
    | noNumber hnone => cases hnone.symm.trans htext
    | unreadable htext' _ => rw [Option.some.inj (htext.symm.trans htext')]
  | calendar hseconds hnanos _ =>
    cases finds' with
    | calendar hseconds' hnanos' _ =>
      rw [hseconds.eq hseconds', Int.ofNat_inj.mp (hnanos.eq hnanos')]
  | size hstep hheight _ =>
    cases finds' with
    | size hstep' hheight' _ =>
      rw [Int.ofNat_inj.mp (hstep.eq hstep'), Int.ofNat_inj.mp (hheight.eq hheight')]
  | noText _ =>
    cases finds' with
    | noText _ => rfl

theorem FirstFound.cons_iff : FirstFound h payload (check :: after) e ↔
    Finds h payload check e ∨
      (∀ e', ¬ Finds h payload check e') ∧ FirstFound h payload after e := by
  constructor
  · intro found
    cases found with
    | here finds => exact .inl finds
    | later hclear found => exact .inr ⟨hclear, found⟩
  · rintro (finds | ⟨hclear, found⟩)
    · exact .here finds
    · exact .later hclear found

theorem FirstFound.append_iff : FirstFound h payload (before ++ after) e ↔
    FirstFound h payload before e ∨
      (∀ e', ¬ FirstFound h payload before e') ∧ FirstFound h payload after e := by
  induction before with
  | nil => exact ⟨fun found => .inr ⟨nofun, found⟩, fun h => h.elim nofun (·.2)⟩
  | cons check rest ih =>
    constructor
    · intro found
      rcases cons_iff.mp found with finds | ⟨hclear, found⟩
      · exact .inl (.here finds)
      · rcases ih.mp found with found | ⟨hrest, found⟩
        · exact .inl (.later hclear found)
        · refine .inr ⟨fun e' first => ?_, found⟩
          exact (cons_iff.mp first).elim (hclear e') fun h => hrest e' h.2
    · rintro (found | ⟨hnone, found⟩)
      · rcases cons_iff.mp found with finds | ⟨hclear, found⟩
        · exact .here finds
        · exact .later hclear (ih.mpr (.inl found))
      · have hclear : ∀ e', ¬ Finds h payload check e' := fun e' finds => hnone e' (.here finds)
        have hrest : ∀ e', ¬ FirstFound h payload rest e' := fun e' first =>
          hnone e' (.later hclear first)
        exact .later hclear (ih.mpr (.inr ⟨hrest, found⟩))

/-! ## Results that report -/

namespace Reports

variable {α β : Type} {x : Except MessageError α}

theorem ok (a : α) : Reports h payload [] (.ok a : Except MessageError α) :=
  fun _ => ⟨nofun, nofun⟩

/-- One step after another makes the checks of the one before those of the other. -/
theorem bind {f : α → Except MessageError β} (reports : Reports h payload before x)
    (onward : ∀ a, x = .ok a → Reports h payload after (f a)) :
    Reports h payload (before ++ after) (x >>= f) := by
  intro e
  rw [FirstFound.append_iff]
  cases x with
  | error e' =>
    have found := (reports e').mp rfl
    constructor
    · intro heq
      cases heq
      exact .inl found
    · rintro (first | ⟨hnone, _⟩)
      · exact congrArg Except.error (Except.error.inj ((reports e).mpr first))
      · exact (hnone e' found).elim
  | ok a =>
    have hnone : ∀ e', ¬ FirstFound h payload before e' := fun e' found => by
      cases (reports e').mpr found
    exact (onward a rfl e).trans
      ⟨fun found => .inr ⟨hnone, found⟩, fun first => first.elim (absurd · (hnone e)) (·.2)⟩

theorem found (finds : Finds h payload check e) :
    Reports h payload (check :: after) (.error e : Except MessageError α) := by
  intro e'
  rw [FirstFound.cons_iff, or_iff_left fun h => h.1 e finds, Except.error.injEq]
  constructor
  · rintro rfl
    exact finds
  · exact finds.eq

theorem passed (hclear : ∀ e, ¬ Finds h payload check e) (reports : Reports h payload after x) :
    Reports h payload (check :: after) x := by
  intro e
  rw [reports e, FirstFound.cons_iff, or_iff_right (hclear e), and_iff_right hclear]

end Reports

/-! ## The checks that are made -/

theorem find_reports (name : HeaderName) :
    Reports h payload [.text name] (Headers.find h name) := by
  rw [Headers.find]
  cases htext : h[name.text]? with
  | none => exact .found (.noText htext)
  | some text =>
    refine .passed (fun e finds => ?_) (.ok text)
    cases finds with
    | noText hnone => cases htext.symm.trans hnone

theorem not_finds_number {n : Int} (gives : h.Gives name n) :
    ∀ e, ¬ Finds h payload (.number name) e := by
  obtain ⟨text, htext, reads⟩ := gives
  intro e finds
  cases finds with
  | noNumber hnone => cases htext.symm.trans hnone
  | unreadable htext' hunread =>
    rw [← Option.some.inj (htext.symm.trans htext')] at hunread
    exact hunread n reads

theorem number_reports {α : Type} {read? : List Char → Option α} {value : α → Int}
    (hread : name.IsReadBy read? value) :
    Reports h payload [.number name] (Headers.number h name read?) := by
  cases htext : h[name.text]? with
  | none =>
    rw [Headers.number, Headers.find, htext]
    exact .found (.noNumber htext)
  | some text =>
    rw [Headers.number, Headers.find_eq_ok_iff.mpr htext]
    cases ha : read? text.toList with
    | none =>
      simp only [bind, Except.bind, ha]
      refine .found (.unreadable htext fun n reads => ?_)
      obtain ⟨a, hsome, _⟩ := (hread text n).mp reads
      cases ha.symm.trans hsome
    | some a =>
      simp only [bind, Except.bind, ha]
      exact .passed (not_finds_number ⟨text, htext, (hread text _).mpr ⟨a, ha, rfl⟩⟩) (.ok a)

theorem word_reports (u : name.IsUnsigned UInt32.size) :
    Reports h payload [.number name] (Headers.word h name) :=
  (number_reports u.isReadBy).bind fun n _ => .ok (UInt32.ofNat n)

theorem calendar_reports {seconds : Int} {nanos : UInt32} (hseconds : h.Gives .seconds seconds)
    (hnanos : h.Gives .nanos nanos.toNat) :
    Reports h payload [.calendar] (match Stamp.ofParts? seconds nanos.toNat with
      | some stamp => pure stamp
      | none =>
        let places := String.ofList (Text.paddedDigits 9 nanos.toNat)
        throw (.unreadable .seconds s!"{seconds}.{places}")) := by
  by_cases hthere : Stamp.isRepresentable seconds nanos.toNat = true
  · rw [Stamp.ofParts?, if_pos hthere]
    refine .passed (fun e finds => ?_) (.ok _)
    cases finds with
    | calendar hseconds' hnanos' hnot =>
      rw [hseconds'.eq hseconds, Int.ofNat_inj.mp (hnanos'.eq hnanos)] at hnot
      exact hnot hthere
  · rw [Stamp.ofParts?, if_neg hthere]
    exact .found (.calendar hseconds hnanos hthere)

theorem stamp_reports :
    Reports h payload [.number .seconds, .number .nanos, .calendar] (Headers.stamp h) := by
  refine (number_reports HeaderName.isReadBy_seconds).bind fun seconds hseconds => ?_
  refine (word_reports HeaderName.isUnsigned_nanos).bind fun nanos hnanos => ?_
  exact calendar_reports (Headers.seconds_eq_ok hseconds)
    (Headers.word_eq_ok HeaderName.isUnsigned_nanos hnanos)

/-- The size is checked of a step and a height that were read. -/
theorem size_reports {α : Type} {step height : UInt32} (hstep : h.Gives .step step.toNat)
    (hheight : h.Gives .height height.toNat) {onward : Unit → Except MessageError α}
    (reports : Reports h payload after (onward ())) :
    Reports h payload (.size :: after) (if payload.size ≠ step.toNat * height.toNat then
      throw (.wrongSize (step.toNat * height.toNat) payload.size) >>= onward else onward ()) := by
  by_cases hsize : payload.size = step.toNat * height.toNat
  · rw [if_neg (not_not_intro hsize)]
    refine .passed (fun e finds => ?_) reports
    cases finds with
    | size hstep' hheight' hwrong =>
      rw [Int.ofNat_inj.mp (hstep'.eq hstep), Int.ofNat_inj.mp (hheight'.eq hheight)] at hwrong
      exact hwrong hsize
  · rw [if_pos hsize]
    exact .found (.size hstep hheight hsize)

theorem ofMessage_reports : Reports h payload checks (ofMessage h payload) := by
  -- Each step takes its checks off the front of the list.
  refine stamp_reports.bind fun stamp _ => ?_
  refine (word_reports ⟨rfl, rfl, rfl⟩).bind fun height hheight => ?_
  refine (word_reports ⟨rfl, rfl, rfl⟩).bind fun width _ => ?_
  refine (word_reports ⟨rfl, rfl, rfl⟩).bind fun step hstep => ?_
  refine (number_reports HeaderName.isUnsigned_bigEndian.isReadBy).bind fun flag _ => ?_
  refine size_reports (Headers.word_eq_ok ⟨rfl, rfl, rfl⟩ hstep)
    (Headers.word_eq_ok ⟨rfl, rfl, rfl⟩ hheight) ?_
  refine (find_reports _).bind fun frameId _ => ?_
  exact (find_reports _).bind fun encoding _ => .ok _

/-- Of headers that describe an image, a payload of another size is the first defect. -/
theorem DescribedBy.firstFound_size {i : Image} (described : i.DescribedBy h)
    (hwrong : payload.size ≠ i.step.toNat * i.height.toNat) :
    FirstFound h payload checks
      (.wrongSize (i.step.toNat * i.height.toNat) payload.size) := by
  obtain ⟨_, hflag, _⟩ := described.bigEndian
  have hthere : ∀ e, ¬ Finds h payload .calendar e := by
    intro e finds
    cases finds with
    | calendar hseconds hnanos hnot =>
      rw [hseconds.eq described.seconds, Int.ofNat_inj.mp (hnanos.eq described.nanos)] at hnot
      exact hnot described.calendar
  refine .later (not_finds_number described.seconds) ?_
  refine .later (not_finds_number described.nanos) ?_
  refine .later hthere ?_
  refine .later (not_finds_number described.height) ?_
  refine .later (not_finds_number described.width) ?_
  refine .later (not_finds_number described.step) ?_
  refine .later (not_finds_number hflag) ?_
  exact .here (.size described.step described.height hwrong)

/-- Only the headers of an image are looked at. -/
theorem ofMessage_congr {h' : Headers}
    (hsame : ∀ name : HeaderName, h[name.text]? = h'[name.text]?) :
    ofMessage h payload = ofMessage h' payload := by
  have hfind : Headers.find h = Headers.find h' := by
    funext name
    rw [Headers.find, Headers.find, hsame]
  simp only [ofMessage, Headers.stamp, Headers.seconds, Headers.word, Headers.number, hfind]

/-- A message is read as an image exactly if the image stands in it, and else reported with the
defect of the first check that finds one. Other headers change nothing. -/
theorem ofMessage_reads_or_reports :
    (∀ (m : Message) (i : Image),
      ofMessage m.headers m.payload = .ok i ↔ i.StandsIn m.headers m.payload) ∧
    (∀ (m : Message) (e : MessageError),
      ofMessage m.headers m.payload = .error e ↔ FirstFound m.headers m.payload checks e) ∧
    ∀ m m' : Message, (∀ name : HeaderName, m.headers[name.text]? = m'.headers[name.text]?) →
      m.payload = m'.payload →
      ofMessage m.headers m.payload = ofMessage m'.headers m'.payload := by
  refine ⟨fun m i => ofMessage_eq_ok_iff, fun m => ofMessage_reports, ?_⟩
  intro m m' hsame hpayload
  rw [hpayload]
  exact ofMessage_congr hsame

/-- The last second of 64 bits is past the calendar; the negative height and the missing width are
not reported, nor is a header of another name. -/
theorem ofMessage_reads_or_reports_past_calendar :
    let broken : Headers := .ofList [("stamp_sec", "9223372036854775807"), ("stamp_nanosec", "+07"),
      ("height", "-1")]
    let m : Message := ⟨"image", ⟨#[1, 2, 3]⟩, broken, 5⟩
    let m' : Message := ⟨"other", ⟨#[1, 2, 3]⟩, broken.insert "origin" "camera", 6⟩
    let e : MessageError := .unreadable .seconds "9223372036854775807.000000007"
    FirstFound m.headers m.payload checks e ∧ ofMessage m'.headers m'.payload = .error e := by
  intro broken m m' e
  have hseconds : broken.Gives .seconds 0x7FFFFFFFFFFFFFFF :=
    ⟨"9223372036854775807", by decide +kernel,
      (HeaderName.isReadBy_seconds _ _).mpr ⟨_, by decide +kernel, rfl⟩⟩
  have hnanos : broken.Gives .nanos (7 : Nat) :=
    ⟨"+07", by decide +kernel,
      (HeaderName.isUnsigned_nanos.isReadBy _ _).mpr ⟨7, by decide +kernel, rfl⟩⟩
  have hpast : ¬ Stamp.InCalendar ⟨0x7FFFFFFFFFFFFFFF, 7⟩ :=
    show ¬ Stamp.isRepresentable 0x7FFFFFFFFFFFFFFF 7 = true by decide
  have hshown : e = .unreadable .seconds (toString (0x7FFFFFFFFFFFFFFF : Int) ++ "." ++
      String.ofList ((Nat.toDigits 10 7).leftpad 9 '0')) := by decide +kernel
  have found : FirstFound m.headers m.payload checks e := by
    refine .later (not_finds_number hseconds) (.later (not_finds_number hnanos) (.here ?_))
    exact hshown ▸ .calendar hseconds hnanos hpast
  have hsame : ∀ name : HeaderName, m.headers[name.text]? = m'.headers[name.text]? := by
    intro name
    cases name <;> decide +kernel
  have hother := ofMessage_reads_or_reports.2.2 m m' hsame rfl
  exact ⟨found, hother.symm.trans ((ofMessage_reads_or_reports.2.1 m e).mpr found)⟩

end PacedImages.Image
