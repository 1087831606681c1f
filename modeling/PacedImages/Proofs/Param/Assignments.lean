import PacedImages.Proofs.Param.Precedence
import PacedImages.Proofs.Text.Trim

/-!
# Lists of assignments

An assignment is taken apart at its first equals sign. It is malformed if there is none, if no name
stands before it, or if what stands behind it is neither blank nor readable; otherwise it assigns a
value to a name. A list of assignments fails with the first malformed one, whatever comes later;
without one it gives each name that occurs in it the value assigned last. Blank texts are never
given to the reader of documents.
-/

namespace PacedImages

open Text (AllBlank IsTrimmed)

/-- The two sides of the first equals sign in a text. -/
structure HasSides (text : String) (left right : List Char) : Prop where
  toList_eq : text.toList = left ++ '=' :: right
  first : '=' ∉ left

/-- The text assigns the value to the name. -/
inductive Assigns (readDocument : DocumentReader) (text : String) : String → Value → Prop
  | blank {left right name : List Char} : HasSides text left right → IsTrimmed left name →
    name ≠ [] → AllBlank right →
    Assigns readDocument text (String.ofList name) (.text "")
  | read {left right name : List Char} {v : Value} : HasSides text left right →
    IsTrimmed left name → name ≠ [] → ¬ AllBlank right →
    readDocument (String.ofList right) = .ok v →
    Assigns readDocument text (String.ofList name) v

/-- The text is no assignment, for a reason. -/
inductive Malformed (readDocument : DocumentReader) (text : String) : ParamError → Prop
  | unsigned : '=' ∉ text.toList → Malformed readDocument text (.badAssignment text)
  | unnamed {left right : List Char} : HasSides text left right → AllBlank left →
    Malformed readDocument text (.badAssignment text)
  | unreadable {left right : List Char} {report : String} : HasSides text left right →
    ¬ AllBlank left → ¬ AllBlank right → readDocument (String.ofList right) = .error report →
    Malformed readDocument text (.malformed report)

/-- A name that can be assigned to. -/
structure IsName (name : String) : Prop where
  ne_empty : name ≠ ""
  unsigned : '=' ∉ name.toList
  trimmed : IsTrimmed name.toList name.toList

/-- The first malformed text of a list is malformed for this reason. -/
inductive FirstMalformed (readDocument : DocumentReader) (e : ParamError) : List String → Prop
  | here {text : String} {rest : List String} : Malformed readDocument text e →
    FirstMalformed readDocument e (text :: rest)
  | later {text : String} {rest : List String} : (∃ name v, Assigns readDocument text name v) →
    FirstMalformed readDocument e rest → FirstMalformed readDocument e (text :: rest)

/-- The last text of a list that assigns to the name assigns the value to it. -/
inductive LastAssigns (readDocument : DocumentReader) (name : String) (v : Value) :
    List String → Prop
  | here {text : String} {rest : List String} : Assigns readDocument text name v →
    (∀ other ∈ rest, ∀ w, ¬ Assigns readDocument other name w) →
    LastAssigns readDocument name v (text :: rest)
  | later {text : String} {rest : List String} : LastAssigns readDocument name v rest →
    LastAssigns readDocument name v (text :: rest)

variable {readDocument : DocumentReader} {text name : String} {left right : List Char}
  {texts : List String} {v : Value} {e : ParamError}

/-! ## Taking an assignment apart -/

theorem splitAssignment?_of_not_mem {cs : List Char} (h : '=' ∉ cs) :
    splitAssignment? cs = none := by
  induction cs with
  | nil => rfl
  | cons c rest ih =>
    obtain ⟨hc, hrest⟩ := List.ne_and_not_mem_of_not_mem_cons h
    rw [splitAssignment?.eq_3 c rest (Ne.symm hc), ih hrest]
    rfl

theorem splitAssignment?_append (h : '=' ∉ left) (right : List Char) :
    splitAssignment? (left ++ '=' :: right) = some (left, right) := by
  induction left with
  | nil => rfl
  | cons c rest ih =>
    obtain ⟨hc, hrest⟩ := List.ne_and_not_mem_of_not_mem_cons h
    rw [List.cons_append, splitAssignment?.eq_3 c _ (Ne.symm hc), ih hrest]
    rfl

theorem unsigned_or_hasSides (text : String) :
    '=' ∉ text.toList ∨ ∃ left right, HasSides text left right := by
  by_cases hsign : '=' ∈ text.toList
  · obtain ⟨left, right, htext, hfirst⟩ := List.eq_append_cons_of_mem hsign
    exact Or.inr ⟨left, right, htext, hfirst⟩
  · exact Or.inl hsign

theorem assignedValue_eq (readDocument : DocumentReader) (raw : List Char) :
    assignedValue readDocument raw =
      if AllBlank raw then .ok (.text "")
      else (readDocument (String.ofList raw)).mapError ParamError.malformed := by
  simp only [assignedValue, Text.isEmpty_trim_iff]
  split
  · rfl
  · cases readDocument (String.ofList raw) <;> rfl

theorem readAssignment_of_unsigned (h : '=' ∉ text.toList) :
    readAssignment readDocument text = .error (.badAssignment text) := by
  rw [readAssignment, splitAssignment?_of_not_mem h]

theorem HasSides.readAssignment_eq (sides : HasSides text left right) :
    readAssignment readDocument text =
      if AllBlank left then .error (.badAssignment text)
      else (assignedValue readDocument right).map (String.ofList (Text.trim left), ·) := by
  rw [readAssignment, sides.toList_eq, splitAssignment?_append sides.first]
  simp only [Text.isEmpty_trim_iff]
  split
  · rfl
  · cases assignedValue readDocument right <;> rfl

theorem Assigns.readAssignment_eq (assigns : Assigns readDocument text name v) :
    readAssignment readDocument text = .ok (name, v) := by
  cases assigns with
  | blank sides trimmed hname hblank =>
    rw [sides.readAssignment_eq, if_neg (trimmed.ne_nil_iff.mp hname), assignedValue_eq,
      if_pos hblank, trimmed.trim_eq]
    rfl
  | read sides trimmed hname hright hread =>
    rw [sides.readAssignment_eq, if_neg (trimmed.ne_nil_iff.mp hname), assignedValue_eq,
      if_neg hright, trimmed.trim_eq, hread]
    rfl

theorem Malformed.readAssignment_eq (malformed : Malformed readDocument text e) :
    readAssignment readDocument text = .error e := by
  cases malformed with
  | unsigned hsign => exact readAssignment_of_unsigned hsign
  | unnamed sides hblank => rw [sides.readAssignment_eq, if_pos hblank]
  | unreadable sides hleft hright hread =>
    rw [sides.readAssignment_eq, if_neg hleft, assignedValue_eq, if_neg hright, hread]
    rfl

/-- Every text is an assignment or malformed. -/
theorem assigns_or_malformed (readDocument : DocumentReader) (text : String) :
    (∃ name v, Assigns readDocument text name v) ∨ ∃ e, Malformed readDocument text e := by
  rcases unsigned_or_hasSides text with hsign | ⟨left, right, sides⟩
  · exact Or.inr ⟨_, .unsigned hsign⟩
  have trimmed := Text.isTrimmed_trim left
  by_cases hleft : AllBlank left
  · exact Or.inr ⟨_, .unnamed sides hleft⟩
  have hname := trimmed.ne_nil_iff.mpr hleft
  by_cases hright : AllBlank right
  · exact Or.inl ⟨_, _, .blank sides trimmed hname hright⟩
  cases hread : readDocument (String.ofList right) with
  | ok v => exact Or.inl ⟨_, _, .read sides trimmed hname hright hread⟩
  | error report => exact Or.inr ⟨_, .unreadable sides hleft hright hread⟩

theorem readAssignment_eq_ok_iff :
    readAssignment readDocument text = .ok (name, v) ↔ Assigns readDocument text name v := by
  refine ⟨fun hread => ?_, Assigns.readAssignment_eq⟩
  rcases assigns_or_malformed readDocument text with ⟨n, w, assigns⟩ | ⟨e, malformed⟩
  · obtain ⟨rfl, rfl⟩ := Prod.mk.inj (Except.ok.inj (assigns.readAssignment_eq.symm.trans hread))
    exact assigns
  · cases malformed.readAssignment_eq.symm.trans hread

theorem readAssignment_eq_error_iff :
    readAssignment readDocument text = .error e ↔ Malformed readDocument text e := by
  refine ⟨fun hread => ?_, Malformed.readAssignment_eq⟩
  rcases assigns_or_malformed readDocument text with ⟨n, w, assigns⟩ | ⟨e', malformed⟩
  · cases assigns.readAssignment_eq.symm.trans hread
  · obtain rfl := Except.error.inj (malformed.readAssignment_eq.symm.trans hread)
    exact malformed

theorem Assigns.isName (assigns : Assigns readDocument text name v) : IsName name := by
  obtain ⟨left, right, part, sides, trimmed, hsome, rfl⟩ : ∃ left right part,
      HasSides text left right ∧ IsTrimmed left part ∧ part ≠ [] ∧ String.ofList part = name := by
    cases assigns with
    | blank sides trimmed hname _ => exact ⟨_, _, _, sides, trimmed, hname, rfl⟩
    | read sides trimmed hname _ _ => exact ⟨_, _, _, sides, trimmed, hname, rfl⟩
  obtain ⟨before, after, rfl, -, -⟩ := trimmed.around
  constructor
  · rwa [Ne, ← String.toList_eq_nil_iff, String.toList_ofList]
  · rw [String.toList_ofList]
    intro hsign
    exact sides.first (List.mem_append_left _ (List.mem_append_right _ hsign))
  · rw [String.toList_ofList]
    exact ⟨⟨[], [], by simp, nofun, nofun⟩, trimmed.first, trimmed.last⟩

/-- Of a reader only what it makes of texts that are not blank counts. -/
theorem readAssignment_congr {other : DocumentReader}
    (h : ∀ document : String, ¬ AllBlank document.toList →
      other document = readDocument document) (text : String) :
    readAssignment other text = readAssignment readDocument text := by
  rcases unsigned_or_hasSides text with hsign | ⟨left, right, sides⟩
  · rw [readAssignment_of_unsigned hsign, readAssignment_of_unsigned hsign]
  · have hvalue : assignedValue other right = assignedValue readDocument right := by
      rw [assignedValue_eq, assignedValue_eq]
      by_cases hblank : AllBlank right
      · rw [if_pos hblank, if_pos hblank]
      · rw [h _ (by rwa [String.toList_ofList])]
    rw [sides.readAssignment_eq, sides.readAssignment_eq, hvalue]

/-! ## Lists of assignments -/

theorem FirstMalformed.readAssignments_eq (first : FirstMalformed readDocument e texts) :
    readAssignments readDocument texts = .error e := by
  unfold readAssignments
  generalize (∅ : Parameters) = set
  induction first generalizing set with
  | here malformed =>
    rw [List.foldlM_cons, malformed.readAssignment_eq]
    rfl
  | later assigned _ ih =>
    obtain ⟨name, v, assigns⟩ := assigned
    rw [List.foldlM_cons, assigns.readAssignment_eq]
    exact ih (set.insert name v)

/-- All texts of a list assign values to names, or there is a first malformed one. -/
theorem pairs_or_firstMalformed (readDocument : DocumentReader) (texts : List String) :
    (∃ pairs : List (String × Value),
      texts.map (readAssignment readDocument) = pairs.map .ok) ∨
      ∃ e, FirstMalformed readDocument e texts := by
  induction texts with
  | nil => exact Or.inl ⟨[], rfl⟩
  | cons text rest ih =>
    rcases assigns_or_malformed readDocument text with ⟨name, v, assigns⟩ | ⟨e, malformed⟩
    · rcases ih with ⟨pairs, hpairs⟩ | ⟨e, first⟩
      · refine Or.inl ⟨(name, v) :: pairs, ?_⟩
        rw [List.map_cons, List.map_cons, assigns.readAssignment_eq, hpairs]
      · exact Or.inr ⟨e, .later ⟨name, v, assigns⟩ first⟩
    · exact Or.inr ⟨e, .here malformed⟩

theorem exists_lastAssigns_iff :
    (∃ v, LastAssigns readDocument name v texts) ↔
      ∃ text ∈ texts, ∃ v, Assigns readDocument text name v := by
  constructor
  · rintro ⟨v, last⟩
    induction last with
    | here assigns _ => exact ⟨_, List.mem_cons_self, v, assigns⟩
    | later _ ih =>
      obtain ⟨text, hmem, hassigns⟩ := ih
      exact ⟨text, List.mem_cons_of_mem _ hmem, hassigns⟩
  · rintro ⟨text, hmem, v, assigns⟩
    induction texts generalizing text v with
    | nil => cases hmem
    | cons first rest ih =>
      by_cases hlater : ∃ other ∈ rest, ∃ w, Assigns readDocument other name w
      · obtain ⟨other, hother, w, hassigns⟩ := hlater
        obtain ⟨u, last⟩ := ih other hother w hassigns
        exact ⟨u, .later last⟩
      · rcases List.mem_cons.mp hmem with rfl | hrest
        · refine ⟨v, .here assigns ?_⟩
          intro other hother w hassigns
          exact hlater ⟨other, hother, w, hassigns⟩
        · exact absurd ⟨text, hrest, v, assigns⟩ hlater

/-- The pair that comes last is the text that comes last. -/
theorem lastAssigns_iff {pairs : List (String × Value)}
    (hread : texts.map (readAssignment readDocument) = pairs.map .ok) :
    LastAssigns readDocument name v texts ↔ lastAssigned? pairs name = some v := by
  induction texts generalizing pairs v with
  | nil =>
    obtain rfl := List.map_eq_nil_iff.mp hread.symm
    exact ⟨nofun, nofun⟩
  | cons text rest ih =>
    obtain ⟨⟨n, w⟩, others, rfl, hfirst, hrest⟩ := List.map_eq_cons_iff.mp hread.symm
    have ih (u : Value) :
        LastAssigns readDocument name u rest ↔ lastAssigned? others name = some u :=
      ih hrest.symm
    have assigns := readAssignment_eq_ok_iff.mp hfirst.symm
    rw [lastAssigned?_cons]
    cases hlast : lastAssigned? others name with
    | some u =>
      rw [Option.some_or, ← hlast, ← ih v]
      refine ⟨fun last => ?_, .later⟩
      cases last with
      | here _ hnone =>
        obtain ⟨other, hmem, x, hassigns⟩ := exists_lastAssigns_iff.mp ⟨u, (ih u).mpr hlast⟩
        exact absurd hassigns (hnone other hmem x)
      | later last => exact last
    | none =>
      have hnone : ∀ other ∈ rest, ∀ x, ¬ Assigns readDocument other name x := by
        intro other hmem x hassigns
        obtain ⟨u, last⟩ := exists_lastAssigns_iff.mpr ⟨other, hmem, x, hassigns⟩
        cases hlast.symm.trans ((ih u).mp last)
      rw [Option.none_or]
      constructor
      · intro last
        cases last with
        | here hassigns _ =>
          have hpair := hassigns.readAssignment_eq.symm.trans assigns.readAssignment_eq
          obtain ⟨rfl, rfl⟩ := Prod.mk.inj (Except.ok.inj hpair)
          exact if_pos rfl
        | later last => cases hlast.symm.trans ((ih v).mp last)
      · intro hsome
        split at hsome
        · next hname =>
          subst hname
          obtain rfl := Option.some.inj hsome
          exact .here assigns hnone
        · cases hsome

theorem exists_firstMalformed_iff :
    (∃ e, FirstMalformed readDocument e texts) ↔
      ∃ text ∈ texts, ∃ e, Malformed readDocument text e := by
  constructor
  · rintro ⟨e, first⟩
    induction first with
    | here malformed => exact ⟨_, List.mem_cons_self, e, malformed⟩
    | later _ _ ih =>
      obtain ⟨text, hmem, hmalformed⟩ := ih
      exact ⟨text, List.mem_cons_of_mem _ hmem, hmalformed⟩
  · rintro ⟨text, hmem, e, malformed⟩
    rcases pairs_or_firstMalformed readDocument texts with ⟨pairs, hpairs⟩ | hfirst
    · have hread := List.mem_map_of_mem (f := readAssignment readDocument) hmem
      rw [hpairs, malformed.readAssignment_eq] at hread
      obtain ⟨pair, -, hpair⟩ := List.mem_map.mp hread
      cases hpair
    · exact hfirst

theorem readAssignments_eq_error_iff :
    readAssignments readDocument texts = .error e ↔ FirstMalformed readDocument e texts := by
  refine ⟨fun hfails => ?_, FirstMalformed.readAssignments_eq⟩
  rcases pairs_or_firstMalformed readDocument texts with ⟨pairs, hpairs⟩ | ⟨e', first⟩
  · cases (readAssignments_eq hpairs).symm.trans hfails
  · obtain rfl := Except.error.inj (first.readAssignments_eq.symm.trans hfails)
    exact first

theorem getElem?_readAssignments {set : Parameters}
    (hread : readAssignments readDocument texts = .ok set) :
    set.entries[name]? = some v ↔ LastAssigns readDocument name v texts := by
  rcases pairs_or_firstMalformed readDocument texts with ⟨pairs, hpairs⟩ | ⟨e, first⟩
  · obtain rfl := Except.ok.inj ((readAssignments_eq hpairs).symm.trans hread)
    rw [lastAssigns_iff hpairs, Parameters.getElem?_entries_insertAll,
      Parameters.getElem?_entries_empty, Option.or_none]
  · cases first.readAssignments_eq.symm.trans hread

theorem readAssignments_congr {other : DocumentReader}
    (h : ∀ document : String, ¬ AllBlank document.toList →
      other document = readDocument document) (texts : List String) :
    readAssignments other texts = readAssignments readDocument texts := by
  unfold readAssignments
  simp only [readAssignment_congr h]

namespace CommandLine

/-- The overrides of a command line fail exactly if some assignment is malformed, and then with what
is wrong with the first such. Otherwise they hold the names that occur, each with the value assigned
last. A blank right side is never read. -/
theorem overrides_keep_last_assigned (readDocument : DocumentReader) (c : CommandLine) :
    ((∃ e, c.overrides readDocument = .error e) ↔
      ∃ text ∈ c.assignments, ∃ e, Malformed readDocument text e) ∧
    (∀ e, c.overrides readDocument = .error e ↔
      FirstMalformed readDocument e c.assignments) ∧
    (∀ set, c.overrides readDocument = .ok set →
      (∀ name : String, (∃ v, set.entries[name]? = some v) ↔
        ∃ text ∈ c.assignments, ∃ v, Assigns readDocument text name v) ∧
      (∀ (name : String) (v : Value), set.entries[name]? = some v ↔
        LastAssigns readDocument name v c.assignments) ∧
      ∀ (name : String) (v : Value), set.entries[name]? = some v → IsName name) ∧
    ∀ other : DocumentReader, (∀ document : String, ¬ AllBlank document.toList →
      other document = readDocument document) →
      c.overrides other = c.overrides readDocument := by
  refine ⟨?_, fun e => readAssignments_eq_error_iff, ?_,
    fun other h => readAssignments_congr h c.assignments⟩
  · rw [← exists_firstMalformed_iff]
    exact exists_congr fun e => readAssignments_eq_error_iff
  · intro set hset
    have hentries (name : String) (v : Value) : set.entries[name]? = some v ↔
        LastAssigns readDocument name v c.assignments := getElem?_readAssignments hset
    have hnames (name : String) : (∃ v, set.entries[name]? = some v) ↔
        ∃ text ∈ c.assignments, ∃ v, Assigns readDocument text name v := by
      rw [← exists_lastAssigns_iff]
      exact exists_congr (hentries name)
    refine ⟨hnames, hentries, ?_⟩
    intro name v hentry
    obtain ⟨text, -, w, assigns⟩ := (hnames name).mp ⟨v, hentry⟩
    exact assigns.isName

def spelledApart : List String := ["dt=5", "\u3000dt\u00A0=7", "seed=\u2003", "rate=~=~"]

/-- A name spelled in two ways, and a name with a blank text; further equals signs are read. -/
theorem overrides_keep_last_assigned_spelled_apart :
    let c := { standard with assignments := spelledApart }
    let readable := { standard with assignments := spelledApart.take 3 }
    c.overrides Program.sampleReader = .error (.malformed "unknown document") ∧
      ∃ set, readable.overrides Program.sampleReader = .ok set ∧
        set.entries["dt"]? = some (.int 7) ∧ set.entries["seed"]? = some (.text "") ∧
        IsName "dt" := by
  intro c readable
  have first : Assigns Program.sampleReader "dt=5" "dt" (.int 5) :=
    readAssignment_eq_ok_iff.mp rfl
  have second : Assigns Program.sampleReader "\u3000dt\u00A0=7" "dt" (.int 7) :=
    readAssignment_eq_ok_iff.mp rfl
  have third : Assigns Program.sampleReader "seed=\u2003" "seed" (.text "") :=
    readAssignment_eq_ok_iff.mp rfl
  have last : Malformed Program.sampleReader "rate=~=~" (.malformed "unknown document") :=
    readAssignment_eq_error_iff.mp rfl
  have hothers : ∀ other ∈ ["seed=\u2003"], ∀ w,
      ¬ Assigns Program.sampleReader other "dt" w := by
    intro other hother w assigns
    rw [List.mem_singleton.mp hother] at assigns
    have hpair := assigns.readAssignment_eq.symm.trans third.readAssignment_eq
    have hname : "dt" = "seed" := congrArg Prod.fst (Except.ok.inj hpair)
    exact absurd hname (by decide)
  obtain ⟨-, hfails, -⟩ := overrides_keep_last_assigned Program.sampleReader c
  obtain ⟨-, -, hkeeps, -⟩ := overrides_keep_last_assigned Program.sampleReader readable
  obtain ⟨-, hentries, hnames⟩ := hkeeps _ rfl
  have hdt := (hentries "dt" (.int 7)).mpr (.later (.here second hothers))
  have hseed := (hentries "seed" (.text "")).mpr (.later (.later (.here third nofun)))
  refine ⟨?_, _, rfl, hdt, hseed, hnames "dt" _ hdt⟩
  exact (hfails _).mpr
    (.later ⟨_, _, first⟩ (.later ⟨_, _, second⟩ (.later ⟨_, _, third⟩ (.here last))))

end CommandLine

end PacedImages
