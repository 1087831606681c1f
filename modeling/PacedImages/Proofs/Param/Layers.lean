import PacedImages.Proofs.Dispatch.Loop
import PacedImages.Scene

/-!
# Layers of parameters

Sets are merged by names: the upper set has its way wherever it has an entry, be it null. Selecting
names before a merge or after it makes no difference, so sources that are laid over one another are
as good as one layer with all overrides merged.
-/

namespace PacedImages

namespace Parameters

theorem merge_assoc (a b c : Parameters) : (a.merge b).merge c = a.merge (b.merge c) := by
  apply ext_entries
  intro name
  simp only [getElem?_entries_merge, Option.or_assoc]

@[simp] theorem merge_self (a : Parameters) : a.merge a = a := by
  apply ext_entries
  intro name
  rw [getElem?_entries_merge, Option.or_self]

@[simp] theorem empty_merge (a : Parameters) : (∅ : Parameters).merge a = a := by
  apply ext_entries
  intro name
  rw [getElem?_entries_merge, getElem?_entries_empty, Option.or_none]

@[simp] theorem merge_empty (a : Parameters) : a.merge ∅ = a := by
  apply ext_entries
  intro name
  rw [getElem?_entries_merge, getElem?_entries_empty, Option.none_or]

@[simp] theorem select_empty (names : List String) : (∅ : Parameters).select names = ∅ := by
  apply ext_entries
  intro name
  rw [getElem?_entries_select, getElem?_entries_empty, ite_self]

theorem select_merge (a b : Parameters) (names : List String) :
    (a.merge b).select names = (a.select names).merge (b.select names) := by
  apply ext_entries
  intro name
  simp only [getElem?_entries_select, getElem?_entries_merge]
  by_cases hname : name ∈ names
  · simp only [if_pos hname]
  · simp only [if_neg hname, Option.or_none]

theorem select_select (a : Parameters) (names more : List String) :
    (a.select names).select more = a.select (names.filter (· ∈ more)) := by
  apply ext_entries
  intro name
  simp only [getElem?_entries_select, List.mem_filter, decide_eq_true_eq]
  by_cases hmore : name ∈ more
  · simp only [hmore, and_true, if_true]
  · simp only [hmore, and_false, if_false]

/-- Only which names there are counts, not their order or how often they are given. -/
theorem select_congr (a : Parameters) {names others : List String}
    (h : ∀ name, name ∈ names ↔ name ∈ others) : a.select names = a.select others := by
  apply ext_entries
  intro name
  simp only [getElem?_entries_select, h]

/-- All sets merged into the first, the last one on top. -/
def mergeAll (set : Parameters) (upper : List Parameters) : Parameters := upper.foldl merge set

/-- What lies above a set can be merged first. -/
theorem mergeAll_eq (set : Parameters) (upper : List Parameters) :
    set.mergeAll upper = set.merge ((∅ : Parameters).mergeAll upper) := by
  induction upper generalizing set with
  | nil => exact (merge_empty set).symm
  | cons next rest ih =>
    calc set.mergeAll (next :: rest)
      _ = (set.merge next).mergeAll rest := rfl
      _ = (set.merge next).merge ((∅ : Parameters).mergeAll rest) := ih _
      _ = set.merge (next.merge ((∅ : Parameters).mergeAll rest)) := merge_assoc _ _ _
      _ = set.merge (next.mergeAll rest) := by rw [← ih next]
      _ = set.merge ((∅ : Parameters).mergeAll (next :: rest)) := by
        show _ = set.merge (((∅ : Parameters).merge next).mergeAll rest)
        rw [empty_merge]

end Parameters

namespace Source

section

variable {m : Type → Type}

theorem eq_of_get {s t : Source m} (hwait : s.wait = t.wait)
    (hget : ∀ names, s.get names = t.get names) : s = t := by
  obtain ⟨wait, get⟩ := s
  obtain ⟨wait', get'⟩ := t
  obtain rfl : wait = wait' := hwait
  obtain rfl : get = get' := funext hget
  rfl

variable [Monad m]

/-- Sources laid over a base, the first overrides right over it. -/
def stack (base : Source m) (layers : List Parameters) : Source m := layers.foldl layered base

variable [LawfulMonad m]

theorem layered_layered (base : Source m) (lower upper : Parameters) :
    (base.layered lower).layered upper = base.layered (lower.merge upper) := by
  refine eq_of_get rfl fun names => ?_
  simp only [layered, bind_assoc]
  congr 1
  funext answer
  cases answer with
  | ok p => simp only [pure_bind, Parameters.select_merge, Parameters.merge_assoc]
  | error e => simp only [pure_bind]

theorem layered_empty (base : Source m) : base.layered ∅ = base := by
  refine eq_of_get rfl fun names => ?_
  simp only [layered, Parameters.select_empty, Parameters.merge_empty]
  conv => rhs; rw [← bind_pure (base.get names)]
  congr 1
  funext answer
  cases answer <;> rfl

/-- Layers over layers are one layer. -/
theorem stack_eq (base : Source m) (layers : List Parameters) :
    base.stack layers = base.layered ((∅ : Parameters).mergeAll layers) := by
  have collapse (lower : Parameters) :
      (base.layered lower).stack layers = base.layered (lower.mergeAll layers) := by
    induction layers generalizing lower with
    | nil => rfl
    | cons next rest ih =>
      show ((base.layered lower).layered next).stack rest = _
      rw [layered_layered]
      exact ih (lower.merge next)
  rw [← collapse, layered_empty]

end

variable {β : Type}

theorem get_layered (base : Source (StateM β)) (overrides : Parameters) (names : List String)
    (b : β) :
    (base.layered overrides).get names b =
      ((base.get names b).1.map (·.merge (overrides.select names)), (base.get names b).2) := by
  simp only [layered, bind_apply]
  cases (base.get names b).1 <;> rfl

/-- Merging and selecting are what layers need them to be, and so a stack of layers is one layer.
Over a base that answers from a full set it answers from that set with all overrides merged into it,
and a failure of the base is its own. -/
theorem layers_collapse :
    (∀ a b c : Parameters, (a.merge b).merge c = a.merge (b.merge c)) ∧
    (∀ a : Parameters, a.merge a = a ∧ (∅ : Parameters).merge a = a ∧ a.merge ∅ = a) ∧
    (∀ (a b : Parameters) (name : String),
      (a.merge b).entries[name]? = b.entries[name]?.or a.entries[name]?) ∧
    (∀ (a b : Parameters) (names : List String),
      (a.merge b).select names = (a.select names).merge (b.select names)) ∧
    (∀ (a : Parameters) (names more : List String) (name : String),
      ((a.select names).select more).entries[name]? =
        if name ∈ names ∧ name ∈ more then a.entries[name]? else none) ∧
    (∀ (a : Parameters) (names others : List String),
      (∀ name, name ∈ names ↔ name ∈ others) → a.select names = a.select others) ∧
    ∀ (base : Source (StateM β)) (layers : List Parameters),
      base.stack layers = base.layered ((∅ : Parameters).mergeAll layers) ∧
      (base.stack layers).wait = base.wait ∧
      ∀ (names : List String) (b : β),
        (∀ e, (base.get names b).1 = .error e →
          (base.stack layers).get names b = (.error e, (base.get names b).2)) ∧
        ∀ full : Parameters, (base.get names b).1 = .ok (full.select names) →
          (base.stack layers).get names b =
            (.ok ((full.mergeAll layers).select names), (base.get names b).2) ∧
          ∀ name, name ∉ names → ((full.mergeAll layers).select names).entries[name]? = none := by
  refine ⟨Parameters.merge_assoc, fun a => ⟨a.merge_self, a.empty_merge, a.merge_empty⟩,
    Parameters.getElem?_entries_merge, Parameters.select_merge, ?_,
    fun a _ _ => a.select_congr, ?_⟩
  · intro a names more name
    rw [Parameters.select_select, Parameters.getElem?_entries_select]
    simp only [List.mem_filter, decide_eq_true_eq]
  · intro base layers
    refine ⟨base.stack_eq layers, by rw [stack_eq]; rfl, ?_⟩
    intro names b
    rw [stack_eq, get_layered]
    constructor
    · intro e hbase
      rw [hbase]
      rfl
    · intro full hbase
      constructor
      · rw [hbase, full.mergeAll_eq, Parameters.select_merge]
        rfl
      · intro name hname
        rw [Parameters.getElem?_entries_select, if_neg hname]

/-- Two layers over a set in memory: the first assigns a period, the second one a null. -/
theorem layers_collapse_over_null :
    let stored : Parameters := .ofList [("dt", .int 10), ("max_count", .int 3)]
    let layers : List Parameters :=
      [.ofList [("dt", .int 1), ("rate", .int 7)], .ofList [("dt", .null)]]
    let bench : Bench Scene := .fresh { Scene.fresh with stored }
    ∃ p, ((Scene.memorySource.stack layers).get ["dt", "max_count"] bench).1 = .ok p ∧
      p.entries["dt"]?.map Value.isNull = some true ∧ p.contains "dt" = false ∧
      p.contains "max_count" = true ∧ p.entries["rate"]? = none := by
  intro stored layers bench
  obtain ⟨-, -, -, -, -, -, hstack⟩ := layers_collapse (β := Bench Scene)
  obtain ⟨-, -, hget⟩ := hstack Scene.memorySource layers
  obtain ⟨hanswer, hothers⟩ := (hget ["dt", "max_count"] bench).2 stored rfl
  have hentries (name : String) :
      ((stored.mergeAll layers).select ["dt", "max_count"]).entries[name]? =
        if name ∈ ["dt", "max_count"] then
          layers[1].entries[name]?.or (layers[0].entries[name]?.or stored.entries[name]?)
        else none := by
    simp only [Parameters.getElem?_entries_select, Parameters.mergeAll, layers, List.foldl_cons,
      List.foldl_nil, Parameters.getElem?_entries_merge]
    rfl
  refine ⟨_, congrArg Prod.fst hanswer, ?_, ?_, ?_, hothers "rate" (by decide)⟩
  · rw [hentries]
    rfl
  · rw [Parameters.contains, Parameters.get?, hentries]
    rfl
  · rw [Parameters.contains, Parameters.get?, hentries]
    rfl

end Source

end PacedImages
