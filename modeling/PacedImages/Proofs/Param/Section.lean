import PacedImages.Param.Section
import PacedImages.Proofs.Param.Mapping

/-!
# Layouts of a parameter document

The same parameters can stand in a document under the name of a node or flat, wrapped or not, and
they are read back from each of these layouts. For a node with a section of its own nothing outside
of the section counts; without one it is as if no node were named.
-/

namespace PacedImages

/-- The ways to lay out parameters for a node in a document, by the entries of the document. -/
inductive Layout (ns : String) (p : Parameters) : Parameters → Prop
  /-- Under the name of the node, and wrapped. -/
  | keyedWrapped (more others : Parameters) :
    Layout ns p (others.insert ns (more.insert wrapperName p.toValue).toValue)
  /-- Under the name of the node. -/
  | keyed (others : Parameters) : p.map? wrapperName = none →
    Layout ns p (others.insert ns p.toValue)
  /-- Wrapped, and not under the name of the node. -/
  | wrapped (others : Parameters) : (others.insert wrapperName p.toValue).map? ns = none →
    Layout ns p (others.insert wrapperName p.toValue)
  /-- Neither wrapped nor under a name. -/
  | flat : p.map? ns = none → p.map? wrapperName = none → Layout ns p p

variable {readDocument : DocumentReader} {document : String} {root p : Parameters} {ns : String}

theorem submap?_toList (p : Parameters) (name : String) : submap? p.toList name = p.map? name := by
  rw [submap?, Parameters.find?_toList, Parameters.map?]
  cases p.entries[name]? with
  | none => rfl
  | some v => cases v <;> rfl

theorem readSection_toValue (hread : readDocument document = .ok root.toValue)
    (ns : Option String) :
    readSection readDocument ns document = .ok (.ofList (sectionOf ns root.toList)) := by
  rw [readSection, hread]
  rfl

theorem sectionOf_of_map? {fields : List (String × Value)} (hmap : root.map? ns = some fields) :
    sectionOf (some ns) root.toList = (submap? fields wrapperName).getD fields := by
  rw [← submap?_toList] at hmap
  simp only [sectionOf, Option.bind_some, hmap, Option.getD_some]

theorem sectionOf_of_map?_none (hmap : root.map? ns = none) :
    sectionOf (some ns) root.toList = sectionOf none root.toList := by
  rw [← submap?_toList] at hmap
  simp only [sectionOf, Option.bind_some, hmap, Option.bind_none]

theorem sectionOf_unnamed (root : Parameters) :
    sectionOf none root.toList = (root.map? wrapperName).getD root.toList := by
  rw [← submap?_toList]
  rfl

/-- The section that a layout makes room for holds the parameters, and nothing else. -/
theorem Layout.sectionOf_eq (layout : Layout ns p root) :
    sectionOf (some ns) root.toList = p.toList := by
  cases layout with
  | keyedWrapped more others =>
    rw [sectionOf_of_map? (Parameters.map?_insert _ ns _), submap?_toList,
      Parameters.map?_insert, Option.getD_some]
  | keyed others hwrapper =>
    rw [sectionOf_of_map? (Parameters.map?_insert _ ns _), submap?_toList, hwrapper,
      Option.getD_none]
  | wrapped others hname =>
    rw [sectionOf_of_map?_none hname, sectionOf_unnamed, Parameters.map?_insert, Option.getD_some]
  | flat hname hwrapper =>
    rw [sectionOf_of_map?_none hname, sectionOf_unnamed, hwrapper, Option.getD_none]

/-- From every layout the parameters are read back. A section of the node's own is all that counts,
and without one the name of the node is of no effect. A null is an empty set; any other document
that is no mapping is refused under the name of the root, and one that cannot be read with what its
reader reports. -/
theorem layouts_read_alike (readDocument : DocumentReader) (ns : String) :
    (∀ (document : String) (root p : Parameters), readDocument document = .ok root.toValue →
      Layout ns p root → readSection readDocument (some ns) document = .ok p) ∧
    (∀ (document document' : String) (root root' : Parameters) (fields : List (String × Value)),
      readDocument document = .ok root.toValue → readDocument document' = .ok root'.toValue →
      root.map? ns = some fields → root'.map? ns = some fields →
      readSection readDocument (some ns) document =
        readSection readDocument (some ns) document') ∧
    (∀ (document : String) (root : Parameters), readDocument document = .ok root.toValue →
      root.map? ns = none →
      readSection readDocument (some ns) document = readSection readDocument none document) ∧
    ∀ (document : String) (node : Option String),
      (readDocument document = .ok .null → readSection readDocument node document = .ok ∅) ∧
      (∀ v, readDocument document = .ok v → v.isNull = false → v.fields? = none →
        ∃ fault, readSection readDocument node document = .error (.wrongType fault) ∧
          fault.name = "<root>") ∧
      ∀ report, readDocument document = .error report →
        readSection readDocument node document = .error (.malformed report) := by
  refine ⟨?_, ?_, ?_, ?_⟩
  · intro document root p hread layout
    rw [readSection_toValue hread, layout.sectionOf_eq, Parameters.ofList_toList]
  · intro document document' root root' fields hread hread' hmap hmap'
    rw [readSection_toValue hread, readSection_toValue hread', sectionOf_of_map? hmap,
      sectionOf_of_map? hmap']
  · intro document root hread hmap
    rw [readSection_toValue hread, readSection_toValue hread, sectionOf_of_map?_none hmap]
  · intro document node
    refine ⟨?_, ?_, ?_⟩
    · intro hread
      rw [readSection, hread]
    · intro v hread hnull hmap
      refine ⟨.root v, ?_, rfl⟩
      rw [readSection, hread]
      cases v with
      | null => cases hnull
      | map fields => cases hmap
      | bool | int | real | text | list => rfl
    · intro report hread
      rw [readSection, hread]

/-- A null under the name of the node, beside a wrapped section and a flat parameter. -/
theorem layouts_read_alike_beside_null :
    let fields : List (String × Value) :=
      [("camera", .null), ("dt", .int 99), (wrapperName, .ofFields [("dt", .int 20)])]
    readSection (fun _ => .ok (.ofFields fields)) (some "camera") "" =
      .ok (.ofList [("dt", .int 20)]) := by
  intro fields
  have hread : Value.ofFields fields =
      (Parameters.insert (.ofList [("camera", .null), ("dt", .int 99)]) wrapperName
        (Parameters.ofList [("dt", .int 20)]).toValue).toValue := by
    rw [← Parameters.ofFields_eq_toValue]
    exact Parameters.ofFields_eq_toValue fields
  exact (layouts_read_alike _ "camera").1 "" _ _ (congrArg Except.ok hread) (.wrapped _ rfl)

end PacedImages
