import PacedImages.Program
import PacedImages.Proofs.Param.Layers

/-!
# Which value of a parameter counts

Of what the command line and the parameter file say about a name, the last assignment on the command
line counts, and the file only where there is none. A null that was assigned counts as well: it
hides what the file says, and the name takes its default. Names that settings are not read from do
not matter, however documents are read.
-/

namespace PacedImages

/-- The value of a name that was assigned last. -/
def lastAssigned? (pairs : List (String × Value)) (name : String) : Option Value :=
  (pairs.filter (·.1 == name)).getLast?.map (·.2)

theorem lastAssigned?_cons (n : String) (v : Value) (pairs : List (String × Value))
    (name : String) :
    lastAssigned? ((n, v) :: pairs) name =
      (lastAssigned? pairs name).or (if n = name then some v else none) := by
  by_cases hname : n = name
  · rw [lastAssigned?, List.filter_cons_of_pos (by simpa using hname), List.getLast?_cons,
      lastAssigned?]
    cases (pairs.filter (·.1 == name)).getLast? <;> simp [hname]
  · rw [lastAssigned?, List.filter_cons_of_neg (by simpa using hname), if_neg hname,
      Option.or_none]
    rfl

/-- The value that counts for a name: the one assigned last, which is none if it is null, and what
the file says if nothing was assigned. -/
def counting? (pairs : List (String × Value)) (fromFile : Parameters) (name : String) :
    Option Value :=
  match lastAssigned? pairs name with
  | some v => if v.isNull then none else some v
  | none => fromFile.get? name

theorem counting?_eq (pairs : List (String × Value)) (fromFile : Parameters) (name : String) :
    counting? pairs fromFile name =
      ((lastAssigned? pairs name).or fromFile.entries[name]?).filter fun v => !v.isNull := by
  unfold counting?
  cases lastAssigned? pairs name with
  | none => rfl
  | some v => cases hnull : v.isNull <;> simp [Option.filter, hnull]

namespace Parameters

/-- A set with pairs entered one after the other. -/
def insertAll (set : Parameters) (pairs : List (String × Value)) : Parameters :=
  pairs.foldl (fun set pair => set.insert pair.1 pair.2) set

theorem getElem?_entries_insertAll (set : Parameters) (pairs : List (String × Value))
    (name : String) :
    (set.insertAll pairs).entries[name]? =
      (lastAssigned? pairs name).or set.entries[name]? := by
  induction pairs generalizing set with
  | nil => rfl
  | cons pair pairs ih =>
    obtain ⟨n, v⟩ := pair
    show ((set.insert n v).insertAll pairs).entries[name]? = _
    rw [ih, getElem?_entries_insert, lastAssigned?_cons, Option.or_assoc]
    split <;> rfl

theorem eq_empty_of_isEmpty {p : Parameters} (h : p.isEmpty = true) : p = ∅ := by
  have hentries : p.entries = ∅ := Std.ExtTreeMap.isEmpty_iff.mp h
  apply ext_entries
  intro name
  rw [hentries]
  rfl

end Parameters

/-- Assignments that can all be read are entered in their order. -/
theorem readAssignments_eq {readDocument : DocumentReader} {assignments : List String}
    {pairs : List (String × Value)}
    (hread : assignments.map (readAssignment readDocument) = pairs.map .ok) :
    readAssignments readDocument assignments = .ok ((∅ : Parameters).insertAll pairs) := by
  unfold readAssignments
  generalize (∅ : Parameters) = set
  induction assignments generalizing pairs set with
  | nil =>
    obtain rfl := List.map_eq_nil_iff.mp hread.symm
    rfl
  | cons assignment rest ih =>
    obtain ⟨pair, others, rfl, hfirst, hrest⟩ := List.map_eq_cons_iff.mp hread.symm
    rw [List.foldlM_cons, ← hfirst]
    exact ih hrest.symm (set.insert pair.1 pair.2)

/-- Settings depend on the six parameters that they are read from, and on no others. -/
theorem Settings.ofParameters_congr {p q : Parameters}
    (h : ∀ name ∈ Settings.names, p.get? name = q.get? name) :
    Settings.ofParameters p = Settings.ofParameters q := by
  unfold Settings.ofParameters Settings.read Parameters.getOr Parameters.getOpt
  simp only [Settings.names, List.forall_mem_cons] at h
  simp only [h]

/-- The file is there and holds the document. -/
structure ParamFile.Holds {β : Type} (file : ParamFile (StateM β)) (b : β) (document : String) :
    Prop where
  isThere : (file.isThere b).1 = true
  read : (file.read (file.isThere b).2).1 = .ok document

namespace Program

open Source (get_layered)

variable {β : Type} {s : Surroundings (StateM β)} {readDocument : DocumentReader}
  {c : CommandLine} {b : β} {fromFile overrides : Parameters} {src : Source (StateM β)}

/-- What lies below the assignments: the section of the parameter file, if one is given. -/
def HasSection (s : Surroundings (StateM β)) (readDocument : DocumentReader) (c : CommandLine)
    (b : β) (fromFile : Parameters) : Prop :=
  match c.params with
  | none => fromFile = ∅
  | some path => ∃ document, (s.file path).Holds b document ∧
    readSection readDocument (some c.name) document = .ok fromFile

theorem get_base (hsection : HasSection s readDocument c b fromFile) (names : List String) :
    ((baseSource s readDocument c).get names b).1 = .ok (fromFile.select names) := by
  unfold HasSection at hsection
  unfold baseSource
  cases hparams : c.params with
  | none =>
    rw [hparams] at hsection
    subst hsection
    rfl
  | some path =>
    rw [hparams] at hsection
    obtain ⟨document, holds, hread⟩ := hsection
    simp only [Source.file, Source.loadFile, bind_apply, holds.isThere, if_true, holds.read, hread]
    rfl

theorem source_eq (hread : c.overrides readDocument = .ok overrides) :
    ∃ src, source s readDocument c = .ok src ∧
      src.get = (Source.layered (baseSource s readDocument c) overrides).get := by
  unfold source
  rw [hread]
  refine ⟨_, rfl, ?_⟩
  cases h : overrides.isEmpty with
  | true =>
    rw [Parameters.eq_empty_of_isEmpty h, Source.layered_empty]
    rfl
  | false => rfl

/-- Settings are read from a set that gives each of their names the value assigned last, or else
what the file says. Any other set that gives these names the values that count yields the same
settings, and it makes no difference whether a layer was built over the file. -/
theorem settings_follow_precedence (s : Surroundings (StateM β)) (readDocument : DocumentReader)
    (c : CommandLine) (b : β) (fromFile : Parameters) (pairs : List (String × Value))
    (hsection : HasSection s readDocument c b fromFile)
    (hassigned : c.assignments.map (readAssignment readDocument) = pairs.map .ok) :
    ∃ src p, source s readDocument c = .ok src ∧ (src.get Settings.names b).1 = .ok p ∧
      (∀ name, p.entries[name]? =
        if name ∈ Settings.names then (lastAssigned? pairs name).or fromFile.entries[name]?
        else none) ∧
      (∀ q : Parameters, (∀ name ∈ Settings.names, q.get? name = counting? pairs fromFile name) →
        Settings.ofParameters p = Settings.ofParameters q) ∧
      src.get =
        (Source.layered (baseSource s readDocument c) ((∅ : Parameters).insertAll pairs)).get := by
  obtain ⟨src, hsrc, hget⟩ := source_eq (s := s) (readAssignments_eq hassigned)
  have hentries (name : String) :
      ((fromFile.select Settings.names).merge
        (((∅ : Parameters).insertAll pairs).select Settings.names)).entries[name]? =
        if name ∈ Settings.names then (lastAssigned? pairs name).or fromFile.entries[name]?
        else none := by
    simp only [Parameters.getElem?_entries_merge, Parameters.getElem?_entries_select,
      Parameters.getElem?_entries_insertAll, Parameters.getElem?_entries_empty, Option.or_none]
    split <;> rfl
  refine ⟨src, _, hsrc, ?_, hentries, ?_, hget⟩
  · rw [hget, get_layered, get_base hsection]
    rfl
  · intro q hq
    apply Settings.ofParameters_congr
    intro name hname
    rw [hq name hname, Parameters.get?, hentries, if_pos hname, counting?_eq]

def sampleFields : List (String × Value) :=
  [("dt", .int 20), ("max_count", .int 3), ("rate", .int 1), ("seed", .int 9)]

def sampleSection : Parameters := .ofList sampleFields

/-- A document with a section for the node, wrapped, and a setting besides it. -/
def sampleDocument : Value :=
  .map [("camera", .map [(wrapperName, .map sampleFields)]), ("max_count", .int 50)]

/-- A reader of few documents. -/
def sampleReader : DocumentReader
  | "5" => .ok (.int 5)
  | "7" => .ok (.int 7)
  | "~" => .ok .null
  | "camera" => .ok sampleDocument
  | _ => .error "unknown document"

def sampleSurroundings : Surroundings Staged where
  world := Scene.world
  file path := { path, isThere := pure true, read := pure (.ok "camera") }
  connect _ := pure (.ok ())
  serve _ := pure ()

def sampleCommand : CommandLine :=
  { CommandLine.standard with
    name := "camera"
    params := some "camera.yaml"
    assignments := ["dt=7", "seed=~", "rate=7", "dt=5"] }

/-- The last of two assignments counts, a null hides the seed of the file, and the file is left with
the number of images. -/
theorem settings_follow_precedence_past_null :
    HasSection sampleSurroundings sampleReader sampleCommand (.fresh .fresh) sampleSection ∧
      ∃ src p, source sampleSurroundings sampleReader sampleCommand = .ok src ∧
        (src.get Settings.names (.fresh .fresh)).1 = .ok p ∧ p.entries["rate"]? = none ∧
        Settings.ofParameters p =
          .ok { Settings.standard with period := Time.millis 5, maxCount := 3 } := by
  have hsection :
      HasSection sampleSurroundings sampleReader sampleCommand (.fresh .fresh) sampleSection :=
    ⟨"camera", ⟨rfl, rfl⟩, rfl⟩
  obtain ⟨src, p, hsrc, hget, hentries, hsettings, -⟩ :=
    settings_follow_precedence sampleSurroundings sampleReader sampleCommand (.fresh .fresh)
      sampleSection [("dt", .int 7), ("seed", .null), ("rate", .int 7), ("dt", .int 5)]
      hsection rfl
  have hcounting : ∀ name ∈ Settings.names,
      (Parameters.ofList [("dt", .int 5), ("max_count", .int 3)]).get? name =
        counting? [("dt", .int 7), ("seed", .null), ("rate", .int 7), ("dt", .int 5)]
          sampleSection name := by
    simp only [Settings.names, List.forall_mem_cons]
    exact ⟨rfl, rfl, rfl, rfl, rfl, rfl, nofun⟩
  exact ⟨hsection, src, p, hsrc, hget, hentries "rate", hsettings _ hcounting⟩

end Program

end PacedImages
