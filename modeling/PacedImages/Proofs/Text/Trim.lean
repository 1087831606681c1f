import Mathlib.Data.List.DropRight
import PacedImages.Text.Blank

/-!
# Trimmed texts

Trimming leaves the part of a text that neither starts nor ends with a blank and has nothing but
blanks around it. There is one such part, and it is empty exactly if the text is blank altogether.
-/

namespace PacedImages.Text

def AllBlank (cs : List Char) : Prop := ∀ c ∈ cs, isBlank c = true

instance : DecidablePred AllBlank := fun cs =>
  inferInstanceAs (Decidable (∀ c ∈ cs, isBlank c = true))

/-- The part of a text without the blanks around it. -/
structure IsTrimmed (cs part : List Char) : Prop where
  around : ∃ left right, cs = left ++ part ++ right ∧ AllBlank left ∧ AllBlank right
  first : ∀ c, part.head? = some c → ¬ isBlank c = true
  last : ∀ c, part.getLast? = some c → ¬ isBlank c = true

variable {cs part : List Char}

/-- What is dropped at the end of a text ends where something is to be kept. -/
theorem rdropWhile_append {p : Char → Bool} {right : List Char}
    (hlast : ∀ c, part.getLast? = some c → ¬ p c = true) (hright : ∀ c ∈ right, p c = true) :
    (part ++ right).rdropWhile p = part := by
  rw [List.rdropWhile, List.reverse_append,
    List.dropWhile_append_of_pos fun c hc => hright c (List.mem_reverse.mp hc)]
  refine List.rdropWhile_eq_self_iff.mpr fun hsome => hlast _ ?_
  exact List.getLast?_eq_some_getLast hsome

theorem getLast?_rdropWhile {p : Char → Bool} {c : Char}
    (h : (cs.rdropWhile p).getLast? = some c) : ¬ p c = true := by
  obtain ⟨others, hends⟩ := List.getLast?_eq_some_iff.mp h
  have hsome : cs.rdropWhile p ≠ [] := by simp [hends]
  have hlast := List.rdropWhile_last_not p cs hsome
  simpa [hends] using hlast

theorem trim_eq (cs : List Char) : trim cs = (cs.dropWhile isBlank).rdropWhile isBlank := rfl

theorem trim_eq_nil_iff : trim cs = [] ↔ AllBlank cs := by
  rw [trim_eq, List.rdropWhile_eq_nil_iff]
  constructor
  · intro hrest c hc
    rw [← List.takeWhile_append_dropWhile (p := isBlank) (l := cs)] at hc
    rcases List.mem_append.mp hc with htaken | hdropped
    · exact List.mem_takeWhile_imp htaken
    · exact hrest c hdropped
  · intro hall c hc
    exact hall c ((List.dropWhile_sublist _).subset hc)

theorem isEmpty_trim_iff : (trim cs).isEmpty = true ↔ AllBlank cs := by
  rw [List.isEmpty_iff, trim_eq_nil_iff]

theorem isTrimmed_trim (cs : List Char) : IsTrimmed cs (trim cs) where
  around := by
    refine ⟨cs.takeWhile isBlank, (cs.dropWhile isBlank).rtakeWhile isBlank, ?_,
      fun c hc => List.mem_takeWhile_imp hc, fun c hc => List.mem_rtakeWhile_imp hc⟩
    rw [trim_eq, List.append_assoc, List.rdropWhile_append_rtakeWhile,
      List.takeWhile_append_dropWhile]
  first := by
    intro c hc
    rw [trim_eq] at hc
    obtain ⟨others, hstarts⟩ := List.head?_eq_some_iff.mp hc
    obtain ⟨rest, hrest⟩ := List.rdropWhile_prefix isBlank (cs.dropWhile isBlank)
    have hkept := List.head?_dropWhile_not isBlank cs
    rw [← hrest, hstarts] at hkept
    simpa using hkept
  last _ hc := getLast?_rdropWhile hc

/-- Between blanks nothing else can be left. -/
theorem IsTrimmed.trim_eq (trimmed : IsTrimmed cs part) : trim cs = part := by
  obtain ⟨left, right, rfl, hleft, hright⟩ := trimmed.around
  rw [Text.trim_eq, List.append_assoc, List.dropWhile_append_of_pos hleft]
  cases part with
  | nil =>
    rw [List.nil_append]
    exact trim_eq_nil_iff.mpr hright
  | cons c rest =>
    rw [List.cons_append, List.dropWhile_cons_of_neg (trimmed.first c rfl), ← List.cons_append]
    exact rdropWhile_append trimmed.last hright

theorem IsTrimmed.ne_nil_iff (trimmed : IsTrimmed cs part) : part ≠ [] ↔ ¬ AllBlank cs := by
  rw [← trim_eq_nil_iff, trimmed.trim_eq]

end PacedImages.Text
