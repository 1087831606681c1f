import PacedImages.Messaging.SubjectBook
import PacedImages.Proofs.Text.Trim

/-!
# What a book remembers

A book answers as one without a memory would: with what its prefix puts in front of subjects, and
the subject of the topic behind it. After any lookups it knows the topics among them that have a
subject, each under its own name, and nothing else; so a lookup that fails leaves it as it is, and
topics that share a subject do not touch each other's entries.
-/

namespace PacedImages

namespace Subject

/-- What a prefix puts in front of subjects: nothing if it is empty, else one dot in place of the
dots at its end. -/
inductive Fronts : String → String → Prop
  | nothing : Fronts "" ""
  | dotted (text : String) (dots : Nat) :
    text ++ String.ofList (List.replicate dots '.') ≠ "" → text.toList.getLast? ≠ some '.' →
    Fronts (text ++ String.ofList (List.replicate dots '.')) (text ++ ".")

/-- The subject of a topic behind a text, worked out anew. -/
def behind (front topic : String) : Except TransportError String :=
  match ofTopic topic with
  | .ok tail => .ok (front ++ tail)
  | .error _ => .error (.invalidTopic topic)

variable {given front topic : String}

/-! ## Dots at the end of a prefix -/

theorem lead_of_ne (h : given ≠ "") :
    lead given = String.ofList (given.toList.rdropWhile (· == '.')) ++ "." := by
  rw [lead, if_neg fun hempty => h (String.isEmpty_iff.mp hempty), String.ofList_append]
  rfl

/-- A text is what is left of it without the dots at its end, and so many dots. -/
theorem exists_trimmed (cs : List Char) :
    ∃ text dots, cs = text ++ List.replicate dots '.' ∧ text.getLast? ≠ some '.' := by
  have hdots : cs.rtakeWhile (· == '.') =
      List.replicate (cs.rtakeWhile (· == '.')).length '.' :=
    List.eq_replicate_of_mem fun c hc => by simpa using List.mem_rtakeWhile_imp hc
  refine ⟨cs.rdropWhile (· == '.'), (cs.rtakeWhile (· == '.')).length, ?_, ?_⟩
  · rw [← hdots, List.rdropWhile_append_rtakeWhile]
  · exact fun hdot => Text.getLast?_rdropWhile hdot rfl

theorem Fronts.eq_lead (h : Fronts given front) : front = lead given := by
  cases h with
  | nothing => rfl
  | dotted text dots hsome hlast =>
    have hrest : (text.toList ++ List.replicate dots '.').rdropWhile (· == '.') = text.toList :=
      Text.rdropWhile_append
        (fun c hc hdot => hlast (by rw [hc, beq_iff_eq.mp hdot]))
        (fun c hc => by simp [List.eq_of_mem_replicate hc])
    rw [lead_of_ne hsome, String.toList_append, String.toList_ofList, hrest,
      String.ofList_toList]

theorem lead_fronts (given : String) : Fronts given (lead given) := by
  by_cases hnone : given = ""
  · subst hnone
    exact .nothing
  · obtain ⟨text, dots, hgiven, hlast⟩ := exists_trimmed given.toList
    have hsplit : String.ofList text ++ String.ofList (List.replicate dots '.') = given := by
      rw [← String.ofList_append, ← hgiven, String.ofList_toList]
    have hfronts : Fronts given (String.ofList text ++ ".") :=
      hsplit ▸ .dotted _ dots (hsplit ▸ hnone) (by rwa [String.toList_ofList])
    rwa [← hfronts.eq_lead]

theorem fronts_iff : Fronts given front ↔ front = lead given :=
  ⟨Fronts.eq_lead, fun h => h ▸ lead_fronts given⟩

theorem ofTopic_eq_error {e : TransportError} (h : ofTopic topic = .error e) :
    e = .invalidTopic topic := by
  unfold ofTopic at h
  split at h
  · exact (Except.error.inj h).symm
  · cases h

end Subject

namespace SubjectBook

open Subject (behind)

/-- The book after lookups. -/
def after (book : SubjectBook) (topics : List String) : SubjectBook :=
  topics.foldl (fun book topic => (book.subject topic).2) book

/-- The book knows the topics it was asked for that have a subject, and no others. -/
structure Remembers (book : SubjectBook) (front : String) (asked : List String) : Prop where
  lead : book.lead = front
  known : ∀ topic : String, book.known[topic]? =
    if topic ∈ asked then (behind front topic).toOption else none

variable {book : SubjectBook} {front topic : String} {asked : List String}

theorem under_remembers (given : String) : (under given).Remembers (Subject.lead given) [] where
  lead := rfl
  known topic := by
    rw [if_neg List.not_mem_nil]
    exact Std.ExtTreeMap.getElem?_empty

/-! ## One lookup -/

theorem lead_subject (book : SubjectBook) (topic : String) :
    (book.subject topic).2.lead = book.lead := by
  rw [SubjectBook.subject]
  split
  · rfl
  · split <;> rfl

/-- A lookup changes nothing but the entry of its topic. -/
theorem getElem?_subject_of_ne {other : String} (hne : other ≠ topic) :
    (book.subject other).2.known[topic]? = book.known[topic]? := by
  rw [SubjectBook.subject]
  split
  · rfl
  · split
    · simp [Std.ExtTreeMap.getElem?_insert, hne]
    · rfl

/-- What was answered is what the book knows of the topic from then on. -/
theorem getElem?_subject_self (book : SubjectBook) (topic : String) :
    (book.subject topic).2.known[topic]? = (book.subject topic).1.toOption := by
  rw [SubjectBook.subject]
  split
  · next hknown => exact hknown
  · next hknown =>
    split
    · simp [Except.toOption]
    · exact hknown

/-- A lookup of a topic that has no subject changes nothing. -/
theorem subject_of_error {e : TransportError} (h : (book.subject topic).1 = .error e) :
    (book.subject topic).2 = book := by
  rw [SubjectBook.subject] at h ⊢
  split at h
  · cases h
  · split at h
    · cases h
    · rfl

theorem Remembers.answer (remembers : book.Remembers front asked) (topic : String) :
    (book.subject topic).1 = behind front topic := by
  have hknown := remembers.known topic
  rw [SubjectBook.subject, remembers.lead]
  cases hentry : book.known[topic]? with
  | some subject =>
    rw [hentry] at hknown
    split at hknown
    · cases hbehind : behind front topic with
      | ok given => rw [hbehind] at hknown; exact congrArg Except.ok (Option.some.inj hknown)
      | error e => rw [hbehind] at hknown; cases hknown
    · cases hknown
  | none =>
    rw [behind]
    cases htopic : Subject.ofTopic topic with
    | ok tail => rfl
    | error e => exact congrArg Except.error (Subject.ofTopic_eq_error htopic)

theorem Remembers.subject (remembers : book.Remembers front asked) (topic : String) :
    (book.subject topic).2.Remembers front (asked ++ [topic]) where
  lead := (book.lead_subject topic).trans remembers.lead
  known other := by
    by_cases hsame : other = topic
    · subst hsame
      rw [if_pos (by simp), getElem?_subject_self, remembers.answer]
    · rw [getElem?_subject_of_ne (Ne.symm hsame), remembers.known]
      simp [hsame]

/-! ## All lookups -/

theorem Remembers.subjects (remembers : book.Remembers front asked) (topics : List String) :
    book.subjects topics = topics.map (behind front) ∧
      (book.after topics).Remembers front (asked ++ topics) := by
  induction topics generalizing book asked with
  | nil => exact ⟨rfl, by simpa [after] using remembers⟩
  | cons topic rest ih =>
    obtain ⟨hanswers, hafter⟩ := ih (remembers.subject topic)
    constructor
    · rw [SubjectBook.subjects, List.map_cons, ← remembers.answer, ← hanswers]
    · rwa [List.append_assoc] at hafter

/-- A book under a prefix answers any lookups as one without a memory, which puts the same in front
of every subject. What it knows then is what it was asked for: a failed lookup leaves it as it is,
and a lookup of one topic leaves the entry of every other. -/
theorem subjects_as_without_memory (given : String) :
    ∃ front, (∀ other, Subject.Fronts given other ↔ other = front) ∧ ∀ asked : List String,
      let book := (under given).after asked
      (under given).subjects asked = asked.map (behind front) ∧
      (∀ topic : String, book.known[topic]? =
        if topic ∈ asked then (behind front topic).toOption else none) ∧
      (∀ topic e, (book.subject topic).1 = .error e → (book.subject topic).2 = book) ∧
      ∀ topic other : String, other ≠ topic →
        (book.subject other).2.known[topic]? = book.known[topic]? := by
  refine ⟨Subject.lead given, fun other => Subject.fronts_iff, fun asked => ?_⟩
  obtain ⟨hanswers, hafter⟩ := (under_remembers given).subjects asked
  exact ⟨hanswers, hafter.known, fun _ _ => subject_of_error,
    fun _ _ => getElem?_subject_of_ne⟩

/-- Two topics of one subject, one of them asked for twice, and one without a subject. -/
theorem subjects_as_without_memory_shared :
    let asked := ["/a/b", "//", "a//b/", "/a/b"]
    let book := (under "bench..").after asked
    Subject.Fronts "bench.." "bench." ∧
      (under "bench..").subjects asked =
        [.ok "bench.a.b", .error (.invalidTopic "//"), .ok "bench.a.b", .ok "bench.a.b"] ∧
      book.known["/a/b"]? = some "bench.a.b" ∧ book.known["a//b/"]? = some "bench.a.b" ∧
      book.known["//"]? = none ∧ (book.subject "//").2 = book := by
  intro asked book
  have hfronts : Subject.Fronts "bench.." "bench." := .dotted "bench" 2 (by decide) (by decide)
  obtain ⟨front, hfront, hall⟩ := subjects_as_without_memory "bench.."
  obtain rfl := (hfront "bench.").mp hfronts
  obtain ⟨hanswers, hknown, hfailed, -⟩ := hall asked
  refine ⟨hfronts, hanswers, hknown "/a/b", hknown "a//b/", hknown "//", ?_⟩
  exact hfailed "//" (.invalidTopic "//") rfl

end SubjectBook

end PacedImages
