import PacedImages.Param.Parameters

/-!
# Mappings and parameter sets

A set of parameters is written down as the mapping of its entries in the order of their names, and
read back from it. Every mapping that is put together from fields is the mapping of a set.
-/

namespace PacedImages

namespace Value

/-- The names grow from each field to the next. -/
def IsSorted (fields : List (String × Value)) : Prop :=
  fields.Pairwise fun a b => compare a.1 b.1 = .lt

variable {fields others : List (String × Value)} {name : String} {value : Value}

theorem mem_setField (hsorted : IsSorted fields) {field : String × Value} :
    field ∈ setField name value fields ↔
      field = (name, value) ∨ field ∈ fields ∧ field.1 ≠ name := by
  induction fields with
  | nil => simp [setField]
  | cons first rest ih =>
    obtain ⟨other, v⟩ := first
    obtain ⟨hfirst, hrest⟩ := List.pairwise_cons.mp hsorted
    have apart (hle : compare name other ≠ .gt) : ∀ field ∈ rest, field.1 ≠ name := by
      rintro field hfield rfl
      exact hle (Std.OrientedCmp.gt_of_lt (hfirst field hfield))
    cases hcmp : compare name other with
    | lt =>
      have hne : other ≠ name := by
        rintro rfl
        simp at hcmp
      simp only [setField, hcmp, List.mem_cons]
      constructor
      · rintro (rfl | rfl | hfield)
        · exact Or.inl rfl
        · exact Or.inr ⟨Or.inl rfl, hne⟩
        · exact Or.inr ⟨Or.inr hfield, apart (by simp [hcmp]) field hfield⟩
      · rintro (rfl | ⟨hfield, -⟩)
        · exact Or.inl rfl
        · exact Or.inr hfield
    | eq =>
      obtain rfl := Std.LawfulEqCmp.eq_of_compare hcmp
      simp only [setField, hcmp, List.mem_cons]
      constructor
      · rintro (rfl | hfield)
        · exact Or.inl rfl
        · exact Or.inr ⟨Or.inr hfield, apart (by simp) field hfield⟩
      · rintro (rfl | ⟨rfl | hfield, hne⟩)
        · exact Or.inl rfl
        · exact absurd rfl hne
        · exact Or.inr hfield
    | gt =>
      have hne : other ≠ name := by
        rintro rfl
        simp at hcmp
      simp only [setField, hcmp, List.mem_cons, ih hrest]
      constructor
      · rintro (rfl | rfl | ⟨hfield, hname⟩)
        · exact Or.inr ⟨Or.inl rfl, hne⟩
        · exact Or.inl rfl
        · exact Or.inr ⟨Or.inr hfield, hname⟩
      · rintro (rfl | ⟨rfl | hfield, hname⟩)
        · exact Or.inr (Or.inl rfl)
        · exact Or.inl rfl
        · exact Or.inr (Or.inr ⟨hfield, hname⟩)

theorem setField_isSorted (hsorted : IsSorted fields) :
    IsSorted (setField name value fields) := by
  induction fields with
  | nil => exact List.pairwise_singleton _ _
  | cons first rest ih =>
    obtain ⟨other, v⟩ := first
    obtain ⟨hfirst, hrest⟩ := List.pairwise_cons.mp hsorted
    cases hcmp : compare name other with
    | lt =>
      simp only [setField, hcmp]
      refine List.pairwise_cons.mpr ⟨?_, hsorted⟩
      intro field hfield
      rcases List.mem_cons.mp hfield with rfl | hfield
      · exact hcmp
      · exact Std.TransCmp.lt_trans hcmp (hfirst field hfield)
    | eq =>
      obtain rfl := Std.LawfulEqCmp.eq_of_compare hcmp
      simp only [setField, hcmp]
      exact List.pairwise_cons.mpr ⟨hfirst, hrest⟩
    | gt =>
      simp only [setField, hcmp]
      refine List.pairwise_cons.mpr ⟨?_, ih hrest⟩
      intro field hfield
      rcases (mem_setField hrest).mp hfield with rfl | ⟨hfield, -⟩
      · exact Std.OrientedCmp.lt_of_gt hcmp
      · exact hfirst field hfield

/-- The order of the fields leaves nothing open but what they are. -/
theorem IsSorted.ext (h : IsSorted fields) (h' : IsSorted others)
    (hmem : ∀ field, field ∈ fields ↔ field ∈ others) : fields = others := by
  have nodup {l : List (String × Value)} (hl : IsSorted l) : l.Nodup := by
    refine hl.imp ?_
    rintro a b hlt rfl
    simp at hlt
  have hperm := (List.perm_ext_iff_of_nodup (nodup h) (nodup h')).mpr hmem
  refine hperm.eq_of_pairwise ?_ h h'
  intro a b _ _ hab hba
  rw [Std.OrientedCmp.gt_of_lt hab] at hba
  cases hba

end Value

namespace Parameters

variable {p : Parameters} {name : String}

/-- The mapping with the entries of a set as its fields. -/
def toValue (p : Parameters) : Value := .map p.toList

/-- The fields of the mapping under a name, if there is one. -/
def map? (p : Parameters) (name : String) : Option (List (String × Value)) :=
  p.entries[name]?.bind Value.fields?

theorem mem_toList {value : Value} : (name, value) ∈ p.toList ↔ p.entries[name]? = some value :=
  Std.ExtTreeMap.mem_toList_iff_getElem?_eq_some

theorem map?_insert (p : Parameters) (name : String) (q : Parameters) :
    (p.insert name q.toValue).map? name = some q.toList := by
  rw [map?, getElem?_entries_insert, if_pos rfl]
  rfl

/-- A name has at most one field. -/
theorem find?_toList (p : Parameters) (name : String) :
    p.toList.find? (·.1 == name) = p.entries[name]?.map fun v => (name, v) := by
  cases hfound : p.toList.find? (·.1 == name) with
  | none =>
    have hnone := List.find?_eq_none.mp hfound
    cases hentry : p.entries[name]? with
    | none => rfl
    | some v => exact absurd (beq_self_eq_true name) (hnone (name, v) (mem_toList.mpr hentry))
  | some field =>
    obtain ⟨n, v⟩ := field
    have hentry := mem_toList.mp (List.mem_of_find?_eq_some hfound)
    obtain rfl : n = name := by simpa using List.find?_some hfound
    rw [hentry]
    rfl

theorem toList_isSorted (p : Parameters) : Value.IsSorted p.toList :=
  Std.ExtTreeMap.ordered_keys_toList

theorem toList_insert (p : Parameters) (name : String) (value : Value) :
    (p.insert name value).toList = Value.setField name value p.toList := by
  apply (toList_isSorted _).ext (Value.setField_isSorted p.toList_isSorted)
  rintro ⟨n, v⟩
  rw [mem_toList, getElem?_entries_insert, Value.mem_setField p.toList_isSorted, mem_toList]
  by_cases hname : name = n
  · subst hname
    simp [eq_comm]
  · simp [hname, Ne.symm hname]

/-- Every mapping put together from fields has the entries of a set. -/
theorem ofFields_eq_toValue (pairs : List (String × Value)) :
    Value.ofFields pairs = (ofList pairs).toValue := by
  have entered (p : Parameters) :
      pairs.foldl (fun fields pair => Value.setField pair.1 pair.2 fields) p.toList =
        toList ⟨p.entries.insertMany pairs⟩ := by
    induction pairs generalizing p with
    | nil => rfl
    | cons pair rest ih =>
      rw [List.foldl_cons, ← toList_insert, ih]
      show toList ⟨(p.entries.insert pair.1 pair.2).insertMany rest⟩ = _
      rw [← Std.ExtTreeMap.insertMany_cons]
  exact congrArg Value.map (entered ∅)

theorem ofList_toList (p : Parameters) : ofList p.toList = p := by
  apply ext_entries
  intro name
  cases hentry : p.entries[name]? with
  | none =>
    have habsent : (p.entries.toList.map Prod.fst).contains name = false := by
      simpa using hentry
    exact (Std.ExtTreeMap.getElem?_insertMany_list_of_contains_eq_false habsent).trans
      (getElem?_entries_empty name)
  | some v =>
    exact Std.ExtTreeMap.getElem?_insertMany_list_of_mem (by simp)
      Std.ExtTreeMap.distinct_keys_toList (mem_toList.mpr hentry)

end Parameters

end PacedImages
