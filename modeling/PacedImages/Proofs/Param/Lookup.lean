import PacedImages.Param.Parameters

/-!
# Typed lookups

A lookup by kind has three ways to go: the name is absent or null, its value is one the kind takes,
or its value is a misfit, which is an error and never the default. Of lookups made one after the
other the error is that of the first misfit.
-/

namespace PacedImages

/-- The values of a kind: the integers of its range, the booleans or the texts. -/
def Kind.takes : Kind → Value → Bool
  | .word32, .int n => 0 ≤ n ∧ n ≤ 0xFFFFFFFF
  | .word64, .int n => 0 ≤ n ∧ n ≤ 0xFFFFFFFFFFFFFFFF
  | .int64, .int n => -0x8000000000000000 ≤ n ∧ n ≤ 0x7FFFFFFFFFFFFFFF
  | .flag, .bool _ => true
  | .text, .text _ => true
  | _, _ => false

namespace Value

def ofWord32 (w : UInt32) : Value := .int w.toNat

def ofWord64 (w : UInt64) : Value := .int w.toNat

theorem isNull_eq_false_iff {v : Value} : v.isNull = false ↔ v ≠ .null := by
  cases v <;> simp [isNull]

end Value

namespace Reader

variable {α : Type}

/-- The reader takes the values of its kind, and reads from each what it was written from. -/
structure Undoes (r : Reader α) (write : α → Value) : Prop where
  read?_eq_some_iff : ∀ v a, r.read? v = some a ↔ v = write a
  takes_eq : ∀ v, r.kind.takes v = (r.read? v).isSome
  write_ne_null : ∀ a, write a ≠ .null

/-- A reader of the integers of a range. -/
theorem undoes_of_range {r : Reader α} {low high : Int} {make : Int → α} {value : α → Int}
    (hread : ∀ v, r.read? v =
      match v with
      | .int n => if low ≤ n ∧ n ≤ high then some (make n) else none
      | _ => none)
    (htakes : ∀ v, r.kind.takes v =
      match v with
      | .int n => decide (low ≤ n ∧ n ≤ high)
      | _ => false)
    (hvalue : ∀ n, low ≤ n → n ≤ high → value (make n) = n)
    (hmake : ∀ a, low ≤ value a ∧ value a ≤ high ∧ make (value a) = a) :
    r.Undoes fun a => .int (value a) where
  read?_eq_some_iff v a := by
    rw [hread]
    cases v with
    | int n =>
      simp only [Option.ite_none_right_eq_some, Value.int.injEq, Option.some.injEq]
      constructor
      · rintro ⟨⟨hlow, hhigh⟩, rfl⟩
        exact (hvalue n hlow hhigh).symm
      · rintro rfl
        obtain ⟨hlow, hhigh, heq⟩ := hmake a
        exact ⟨⟨hlow, hhigh⟩, heq⟩
    | _ => exact ⟨nofun, nofun⟩
  takes_eq v := by
    rw [hread, htakes]
    cases v with
    | int n => by_cases hrange : low ≤ n ∧ n ≤ high <;> simp [hrange]
    | _ => rfl
  write_ne_null _ := nofun

theorem word32_undoes : word32.Undoes Value.ofWord32 := by
  refine undoes_of_range (fun v => by cases v <;> rfl) (fun v => by cases v <;> rfl) ?_ ?_
  · intro n hlow hhigh
    have hlt : n.toNat < UInt32.size := by
      simp only [UInt32.size]
      omega
    rw [UInt32.toNat_ofNat_of_lt' hlt, Int.toNat_of_nonneg hlow]
  · intro w
    have hlt := w.toNat_lt
    rw [Int.toNat_natCast, UInt32.ofNat_toNat]
    exact ⟨by omega, by omega, rfl⟩

theorem word64_undoes : word64.Undoes Value.ofWord64 := by
  refine undoes_of_range (fun v => by cases v <;> rfl) (fun v => by cases v <;> rfl) ?_ ?_
  · intro n hlow hhigh
    have hlt : n.toNat < UInt64.size := by
      simp only [UInt64.size]
      omega
    rw [UInt64.toNat_ofNat_of_lt' hlt, Int.toNat_of_nonneg hlow]
  · intro w
    have hlt := w.toNat_lt
    rw [Int.toNat_natCast, UInt64.ofNat_toNat]
    exact ⟨by omega, by omega, rfl⟩

theorem text_undoes : text.Undoes Value.text where
  read?_eq_some_iff v s := by
    cases v with
    | text s' => simp [text]
    | _ => exact ⟨nofun, nofun⟩
  takes_eq v := by cases v <;> rfl
  write_ne_null _ := nofun

end Reader

namespace Parameters

variable {α β : Type} {p : Parameters} {r : Reader α} {write : α → Value} {name : String}
  {kind : Kind} {v : Value} {e : ParamError} {fields before after : List (String × Kind)}

/-- The name has no value, or null. -/
def Lacks (p : Parameters) (name : String) : Prop :=
  p.entries[name]? = none ∨ p.entries[name]? = some .null

/-- What the set says for a name: nothing if it is lacking, `a` if its value is written from `a`. -/
def Gives (p : Parameters) (name : String) (write : α → Value) : Option α → Prop
  | none => p.Lacks name
  | some a => p.entries[name]? = some (write a)

/-- The set says `a` for a name, or nothing and `a` is the default. -/
def Says (p : Parameters) (name : String) (write : α → Value) (default a : α) : Prop :=
  p.Lacks name ∧ a = default ∨ p.entries[name]? = some (write a)

/-- The name is lacking, or its value is of the kind. -/
def Fits (p : Parameters) (field : String × Kind) : Prop :=
  p.Lacks field.1 ∨ ∃ v, p.entries[field.1]? = some v ∧ field.2.takes v = true

/-- The error of a field whose value is not of its kind. -/
def misfit? (p : Parameters) (field : String × Kind) : Option ParamError :=
  (p.get? field.1).bind fun v =>
    if field.2.takes v then none else some (.wrongType (.parameter field.1 ⟨v, field.2⟩))

/-- Of some fields the first that does not fit, with the error that names it and shows its value. -/
def FirstMisfit (p : Parameters) (fields : List (String × Kind)) (e : ParamError) : Prop :=
  ∃ before name kind after v, fields = before ++ (name, kind) :: after ∧
    (∀ field ∈ before, p.Fits field) ∧
    p.entries[name]? = some v ∧ v ≠ .null ∧ kind.takes v = false ∧
    .wrongType (.parameter name ⟨v, kind⟩) = e

/-- A result is an error exactly if some field has a misfit, and then it is the first one. -/
def Reports (p : Parameters) (fields : List (String × Kind)) (x : Except ParamError β) : Prop :=
  ∀ e, x = .error e ↔ fields.findSome? p.misfit? = some e

theorem get?_eq_none_iff : p.get? name = none ↔ p.Lacks name := by
  rw [get?, Lacks, Option.filter_eq_none_iff]
  cases p.entries[name]? with
  | none => simp
  | some v => simp [Value.isNull_eq_false_iff]

theorem get?_eq_some_iff : p.get? name = some v ↔ p.entries[name]? = some v ∧ v ≠ .null := by
  rw [get?, Option.filter_eq_some_iff, Bool.not_eq_true', Value.isNull_eq_false_iff]

theorem gives_iff (undoes : r.Undoes write) {found : Option α} :
    p.Gives name write found ↔ p.get? name = found.map write := by
  cases found with
  | none => exact get?_eq_none_iff.symm
  | some a =>
    rw [Option.map_some, get?_eq_some_iff]
    exact (and_iff_left (undoes.write_ne_null a)).symm

/-- A null written for nothing gives nothing. -/
theorem gives_of_entry {found : Option α}
    (hentry : p.entries[name]? = some (found.elim .null write)) : p.Gives name write found := by
  cases found with
  | none => exact .inr hentry
  | some a => exact hentry

theorem misfit?_eq_some_iff : p.misfit? (name, kind) = some e ↔
    ∃ v, p.entries[name]? = some v ∧ v ≠ .null ∧ kind.takes v = false ∧
      .wrongType (.parameter name ⟨v, kind⟩) = e := by
  simp only [misfit?, Option.bind_eq_some_iff, Option.ite_none_left_eq_some, get?_eq_some_iff,
    Option.some.injEq, Bool.not_eq_true, and_assoc]

theorem misfit?_eq_none_iff {field : String × Kind} :
    p.misfit? field = none ↔ p.Fits field := by
  rw [misfit?, Fits]
  cases hget : p.get? field.1 with
  | none => simp [get?_eq_none_iff.mp hget]
  | some v =>
    obtain ⟨hentry, hnull⟩ := get?_eq_some_iff.mp hget
    simp [Lacks, hentry, hnull]

theorem findSome?_misfit? :
    fields.findSome? p.misfit? = some e ↔ p.FirstMisfit fields e := by
  rw [List.findSome?_eq_some_iff]
  constructor
  · rintro ⟨before, ⟨name, kind⟩, after, hfields, hmisfit, hbefore⟩
    obtain ⟨v, hfound⟩ := misfit?_eq_some_iff.mp hmisfit
    exact ⟨before, name, kind, after, v, hfields,
      fun field hfield => misfit?_eq_none_iff.mp (hbefore field hfield), hfound⟩
  · rintro ⟨before, name, kind, after, v, hfields, hbefore, hfound⟩
    exact ⟨before, (name, kind), after, hfields, misfit?_eq_some_iff.mpr ⟨v, hfound⟩,
      fun field hfield => misfit?_eq_none_iff.mpr (hbefore field hfield)⟩

theorem getOpt_eq_ok_iff (undoes : r.Undoes write) {found : Option α} :
    p.getOpt r name = .ok found ↔ p.Gives name write found := by
  rw [gives_iff undoes, getOpt]
  cases hget : p.get? name with
  | none => cases found <;> simp
  | some v =>
    have reads (a : α) : r.read? v = some a ↔ v = write a := undoes.read?_eq_some_iff v a
    cases hread : r.read? v with
    | none =>
      simp only [Reader.read, hread]
      refine ⟨nofun, fun hfound => ?_⟩
      obtain ⟨a, rfl, hwrite⟩ := Option.map_eq_some_iff.mp hfound.symm
      cases hread.symm.trans ((reads a).mpr hwrite.symm)
    | some a =>
      obtain rfl := (reads a).mp hread
      simp only [Reader.read, hread]
      constructor
      · rintro ⟨⟩
        rfl
      · intro hfound
        obtain ⟨b, rfl, hwrite⟩ := Option.map_eq_some_iff.mp hfound.symm
        rw [Option.some.inj (hread.symm.trans ((reads b).mpr hwrite.symm))]

theorem says_iff {default a : α} :
    p.Says name write default a ↔ ∃ found, p.Gives name write found ∧ found.getD default = a := by
  constructor
  · rintro (⟨hlacks, rfl⟩ | hentry)
    · exact ⟨none, hlacks, rfl⟩
    · exact ⟨some a, hentry, rfl⟩
  · rintro ⟨found, hgives, rfl⟩
    cases found with
    | none => exact .inl ⟨hgives, rfl⟩
    | some a => exact .inr hgives

theorem getOr_eq_ok_iff (undoes : r.Undoes write) {default a : α} :
    p.getOr r name default = .ok a ↔ p.Says name write default a := by
  rw [says_iff, getOr]
  simp only [← getOpt_eq_ok_iff undoes]
  cases p.getOpt r name with
  | error e => exact ⟨nofun, nofun⟩
  | ok found => simp [bind, Except.bind, pure, Except.pure]

/-! ## The first misfit -/

namespace Reports

variable {x : Except ParamError α} {a : α}

theorem ok (a : α) : p.Reports [] (.ok a : Except ParamError α) :=
  fun _ => ⟨nofun, nofun⟩

/-- A result that is no error leaves no misfit among the fields. -/
theorem findSome?_eq_none (reports : p.Reports fields (.ok a)) :
    fields.findSome? p.misfit? = none :=
  Option.eq_none_iff_forall_ne_some.mpr fun e hfound => by cases (reports e).mpr hfound

theorem error_iff (reports : p.Reports fields x) : x = .error e ↔ p.FirstMisfit fields e :=
  (reports e).trans findSome?_misfit?

theorem ok_iff (reports : p.Reports fields x) :
    (∃ a, x = .ok a) ↔ ∀ field ∈ fields, p.Fits field := by
  simp only [← misfit?_eq_none_iff, ← List.findSome?_eq_none_iff]
  cases x with
  | error e =>
    rw [(reports e).mp rfl]
    exact ⟨nofun, nofun⟩
  | ok a => exact ⟨fun _ => reports.findSome?_eq_none, fun _ => ⟨a, rfl⟩⟩

/-- One lookup after another makes the fields of the one before those of the other. -/
theorem bind {f : α → Except ParamError β} (reports : p.Reports before x)
    (onward : ∀ a, x = .ok a → p.Reports after (f a)) :
    p.Reports (before ++ after) (x >>= f) := by
  intro e
  rw [List.findSome?_append]
  cases x with
  | error e' =>
    show (.error e' : Except ParamError β) = .error e ↔ _
    rw [(reports e').mp rfl, Option.some_or, Option.some.injEq, Except.error.injEq]
  | ok a =>
    rw [reports.findSome?_eq_none, Option.none_or]
    exact onward a rfl e

end Reports

theorem getOpt_reports (undoes : r.Undoes write) :
    p.Reports [(name, r.kind)] (p.getOpt r name) := by
  intro e
  rw [List.findSome?_singleton, getOpt, misfit?]
  cases p.get? name with
  | none => exact ⟨nofun, nofun⟩
  | some v =>
    rw [Option.bind_some, undoes.takes_eq]
    cases hread : r.read? v with
    | none => simp [Reader.read, hread]
    | some a => simp [Reader.read, hread]

theorem getOr_reports (undoes : r.Undoes write) (default : α) :
    p.Reports [(name, r.kind)] (p.getOr r name default) :=
  (getOpt_reports undoes).bind fun found _ => .ok (found.getD default)

end Parameters

end PacedImages
