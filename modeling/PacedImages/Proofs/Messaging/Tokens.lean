import Mathlib.Data.List.Forall2
import PacedImages.Messaging.Subject

/-!
# The tokens of a subject

Where a topic has segments, its subject has tokens: as many, in the same order, each as long as its
segment and the same but for the characters that a token cannot have. So what a topic is mapped to
depends on its segments alone, and a subject that is read as a path again is its own subject.
-/

namespace PacedImages.Subject

/-- What lies between the slashes of a topic, where there is anything. -/
def parts (topic : String) : List (List Char) :=
  (topic.toList.splitOn '/').filter fun part => !part.isEmpty

/-- What lies between the dots of a subject. -/
def tokens (subject : String) : List (List Char) := subject.toList.splitOn '.'

def joined (separator : Char) (ts : List (List Char)) : String :=
  String.ofList ([separator].intercalate ts)

/-- A subject as a path, with slashes in place of its dots. -/
def asPath (subject : String) : String :=
  String.ofList (subject.toList.map fun c => if c = '.' then '/' else c)

/-- The characters that have a meaning of their own in subjects, and blanks. -/
def IsSpecial (c : Char) : Prop := c = '.' ∨ c = '*' ∨ c = '>' ∨ Text.isBlank c = true

instance : DecidablePred IsSpecial := fun c =>
  inferInstanceAs (Decidable (c = '.' ∨ c = '*' ∨ c = '>' ∨ Text.isBlank c = true))

/-- A token stands for a segment: every character is there, those that a token cannot have
replaced. -/
structure StandsFor (token segment : List Char) : Prop where
  ne_nil : token ≠ []
  length_eq : token.length = segment.length
  plain : ∀ c ∈ token, ¬ IsSpecial c ∧ c ≠ '/'
  kept : ∀ (i : Nat) (c : Char), segment[i]? = some c → ¬ IsSpecial c → token[i]? = some c
  replaced : ∀ (i : Nat) (c : Char), segment[i]? = some c → IsSpecial c → token[i]? = some '_'

variable {c : Char} {token segment : List Char} {ts : List (List Char)} {topic other : String}

/-! ## Splitting and joining -/

theorem pieces_eq (cs : List Char) : pieces cs = cs.splitOn '/' := by
  induction cs with
  | nil => rfl
  | cons c rest ih =>
    rw [List.splitOn_cons_eq_if_modifyHead, ← ih]
    by_cases hslash : c = '/'
    · subst hslash
      rfl
    · rw [if_neg (by simpa using hslash), pieces.eq_3 c rest hslash]
      cases hpieces : pieces rest with
      | nil => exact absurd (ih.symm.trans hpieces) (List.splitOn_ne_nil _ _)
      | cons first others => rfl

theorem segments_eq (topic : String) : segments topic.toList = parts topic := by
  rw [segments, pieces_eq, parts]

theorem joinDots_eq (ts : List (List Char)) : joinDots ts = ['.'].intercalate ts := by
  induction ts with
  | nil => rfl
  | cons first rest ih =>
    cases rest with
    | nil => exact List.intercalate_singleton.symm
    | cons second others =>
      rw [List.intercalate_cons_cons, ← ih, List.append_assoc]
      rfl

theorem not_mem_of_mem_splitOn {separator : Char} {cs : List Char}
    (h : segment ∈ cs.splitOn separator) : separator ∉ segment := by
  induction cs generalizing segment with
  | nil =>
    rw [List.splitOn_nil, List.mem_singleton] at h
    simp [h]
  | cons c rest ih =>
    rw [List.splitOn_cons_eq_if_modifyHead] at h
    split at h
    · rcases List.mem_cons.mp h with rfl | hrest
      · exact List.not_mem_nil
      · exact ih hrest
    · next hne =>
      cases hsplit : rest.splitOn separator with
      | nil => exact absurd hsplit (List.splitOn_ne_nil _ _)
      | cons first others =>
        rw [hsplit] at h ih
        rcases List.mem_cons.mp h with rfl | hothers
        · intro hmem
          rcases List.mem_cons.mp hmem with rfl | hfirst
          · exact hne (beq_self_eq_true _)
          · exact ih List.mem_cons_self hfirst
        · exact ih (List.mem_cons_of_mem _ hothers)

theorem mem_parts (h : segment ∈ parts topic) : segment ≠ [] ∧ '/' ∉ segment := by
  obtain ⟨hsplit, hthere⟩ := List.mem_filter.mp h
  exact ⟨by simpa using hthere, not_mem_of_mem_splitOn hsplit⟩

/-- A path without parts has nothing but slashes. -/
theorem parts_eq_nil_iff : parts topic = [] ↔ ∀ c ∈ topic.toList, c = '/' := by
  rw [parts]
  induction topic.toList with
  | nil => simp
  | cons c rest ih =>
    rw [List.splitOn_cons_eq_if_modifyHead, List.forall_mem_cons]
    by_cases hslash : c = '/'
    · rw [if_pos (by simpa using hslash)]
      simpa [hslash] using ih
    · rw [if_neg (by simpa using hslash)]
      cases hsplit : rest.splitOn '/' with
      | nil => exact absurd hsplit (List.splitOn_ne_nil _ _)
      | cons first others => simp [hslash]

/-- Tokens that are joined are found again between the dots. -/
theorem tokens_joined (hplain : ∀ token ∈ ts, '.' ∉ token) (hsome : ts ≠ []) :
    tokens (joined '.' ts) = ts := by
  rw [tokens, joined, String.toList_ofList, List.splitOn_intercalate '.' hplain hsome]

/-- Parts that are joined are found again between the slashes. -/
theorem parts_joined (hplain : ∀ token ∈ ts, '/' ∉ token) (hthere : ∀ token ∈ ts, token ≠ [])
    (hsome : ts ≠ []) : parts (joined '/' ts) = ts := by
  rw [parts, joined, String.toList_ofList, List.splitOn_intercalate '/' hplain hsome]
  exact List.filter_eq_self.mpr fun token hmem => by simpa using hthere token hmem

theorem asPath_joined (hplain : ∀ token ∈ ts, '.' ∉ token) :
    asPath (joined '.' ts) = joined '/' ts := by
  have unchanged (token : List Char) (hfree : '.' ∉ token) :
      token.map (fun c => if c = '.' then '/' else c) = token := by
    refine (List.map_congr_left fun c hc => ?_).trans (List.map_id token)
    refine if_neg ?_
    rintro rfl
    exact hfree hc
  rw [asPath, joined, joined, String.toList_ofList]
  congr 1
  induction ts with
  | nil => rfl
  | cons first rest ih =>
    obtain ⟨hfirst, hrest⟩ := List.forall_mem_cons.mp hplain
    cases rest with
    | nil =>
      rw [List.intercalate_singleton, List.intercalate_singleton]
      exact unchanged first hfirst
    | cons second others =>
      rw [List.intercalate_cons_cons, List.intercalate_cons_cons, List.map_append,
        List.map_append, ih hrest, unchanged first hfirst]
      rfl

/-! ## Tokens without special characters -/

theorem isReserved_iff : isReserved c = true ↔ IsSpecial c := by
  simp [isReserved, IsSpecial, or_assoc]

theorem sanitize_plain : ∀ c ∈ sanitize segment, ¬ IsSpecial c := by
  intro c hc
  obtain ⟨d, -, rfl⟩ := List.mem_map.mp hc
  split
  · decide
  · next hplain => rwa [isReserved_iff] at hplain

theorem sanitize_of_plain (hplain : ∀ c ∈ token, ¬ IsSpecial c) : sanitize token = token := by
  refine (List.map_congr_left fun c hc => ?_).trans (List.map_id token)
  rw [if_neg (isReserved_iff.not.mpr (hplain c hc))]
  rfl

theorem sanitize_sanitize (token : List Char) : sanitize (sanitize token) = sanitize token :=
  sanitize_of_plain sanitize_plain

theorem sanitize_standsFor (hthere : segment ≠ []) (hslash : '/' ∉ segment) :
    StandsFor (sanitize segment) segment where
  ne_nil := by simpa [sanitize] using hthere
  length_eq := List.length_map _
  plain := by
    intro c hc
    refine ⟨sanitize_plain c hc, ?_⟩
    obtain ⟨d, hd, rfl⟩ := List.mem_map.mp hc
    split
    · decide
    · rintro rfl
      exact hslash hd
  kept := by
    intro i c hc hplain
    rw [sanitize, List.getElem?_map, hc, Option.map_some, if_neg (isReserved_iff.not.mpr hplain)]
  replaced := by
    intro i c hc hspecial
    rw [sanitize, List.getElem?_map, hc, Option.map_some, if_pos (isReserved_iff.mpr hspecial)]

/-! ## Subjects of topics -/

theorem ofTopic_eq (topic : String) :
    ofTopic topic =
      if parts topic = [] then .error (.invalidTopic topic)
      else .ok (joined '.' ((parts topic).map sanitize)) := by
  rw [ofTopic, segments_eq]
  cases hparts : parts topic with
  | nil => rfl
  | cons first rest =>
    rw [if_neg (List.cons_ne_nil _ _)]
    simp only [joined, joinDots_eq]

theorem ofTopic_eq_ok_iff {subject : String} :
    ofTopic topic = .ok subject ↔
      parts topic ≠ [] ∧ joined '.' ((parts topic).map sanitize) = subject := by
  rw [ofTopic_eq]
  by_cases hnone : parts topic = []
  · rw [if_pos hnone]
    exact ⟨nofun, fun h => absurd hnone h.1⟩
  · rw [if_neg hnone, Except.ok.injEq, and_iff_right hnone]

theorem exists_standsFor (h : token ∈ (parts topic).map sanitize) :
    ∃ segment, StandsFor token segment := by
  obtain ⟨segment, hsegment, rfl⟩ := List.mem_map.mp h
  obtain ⟨hthere, hslash⟩ := mem_parts hsegment
  exact ⟨segment, sanitize_standsFor hthere hslash⟩

theorem StandsFor.not_mem_dot (h : StandsFor token segment) : '.' ∉ token :=
  fun hdot => (h.plain '.' hdot).1 (Or.inl rfl)

theorem tokens_ofTopic {subject : String} (h : ofTopic topic = .ok subject) :
    tokens subject = (parts topic).map sanitize := by
  obtain ⟨hsome, rfl⟩ := ofTopic_eq_ok_iff.mp h
  refine tokens_joined (fun token htoken => ?_) (by simpa using hsome)
  obtain ⟨_, stands⟩ := exists_standsFor htoken
  exact stands.not_mem_dot

theorem parts_asPath {subject : String} (h : ofTopic topic = .ok subject) :
    parts (asPath subject) = (parts topic).map sanitize := by
  obtain ⟨hsome, rfl⟩ := ofTopic_eq_ok_iff.mp h
  rw [asPath_joined fun token htoken => (exists_standsFor htoken).elim fun _ h => h.not_mem_dot]
  refine parts_joined ?_ ?_ (by simpa using hsome)
  · intro token htoken hslash
    obtain ⟨_, stands⟩ := exists_standsFor htoken
    exact (stands.plain '/' hslash).2 rfl
  · intro token htoken
    obtain ⟨_, stands⟩ := exists_standsFor htoken
    exact stands.ne_nil

/-- The path of a subject has its tokens as parts, and nothing is left to be replaced in them. -/
theorem ofTopic_asPath {subject : String} (h : ofTopic topic = .ok subject) :
    ofTopic (asPath subject) = .ok subject := by
  obtain ⟨hsome, hsubject⟩ := ofTopic_eq_ok_iff.mp h
  rw [ofTopic_eq_ok_iff, parts_asPath h, List.map_map]
  refine ⟨by simpa using hsome, ?_⟩
  rw [← hsubject, show sanitize ∘ sanitize = sanitize from funext sanitize_sanitize]

theorem ofTopic_stands {subject : String} (h : ofTopic topic = .ok subject) :
    List.Forall₂ StandsFor (tokens subject) (parts topic) := by
  rw [tokens_ofTopic h, List.forall₂_map_left_iff, List.forall₂_same]
  intro segment hsegment
  obtain ⟨hthere, hslash⟩ := mem_parts hsegment
  exact sanitize_standsFor hthere hslash

/-- A topic has no subject exactly if it has nothing but slashes; else its subject has a token for
each of its parts. Nothing but the parts counts, and to map a subject again changes nothing. -/
theorem ofTopic_maps_parts_to_tokens :
    (∀ topic : String,
      (ofTopic topic = .error (.invalidTopic topic) ↔ ∀ c ∈ topic.toList, c = '/') ∧
      ((∃ c ∈ topic.toList, c ≠ '/') → ∃ subject, ofTopic topic = .ok subject ∧
        List.Forall₂ StandsFor (tokens subject) (parts topic) ∧
        ofTopic (asPath subject) = .ok subject)) ∧
    (∀ topic other : String, parts topic = parts other →
      (ofTopic topic).toOption = (ofTopic other).toOption) ∧
    ∀ token : List Char, sanitize (sanitize token) = sanitize token := by
  refine ⟨fun topic => ⟨?_, ?_⟩, ?_, sanitize_sanitize⟩
  · rw [← parts_eq_nil_iff, ofTopic_eq]
    by_cases hnone : parts topic = []
    · rw [if_pos hnone]
      exact ⟨fun _ => hnone, fun _ => rfl⟩
    · rw [if_neg hnone]
      exact ⟨nofun, fun h => absurd h hnone⟩
  · rintro ⟨c, hc, hslash⟩
    have hsome : parts topic ≠ [] := fun hnone => hslash (parts_eq_nil_iff.mp hnone c hc)
    have hsubject := ofTopic_eq_ok_iff.mpr ⟨hsome, rfl⟩
    exact ⟨_, hsubject, ofTopic_stands hsubject, ofTopic_asPath hsubject⟩
  · intro topic other hparts
    rw [ofTopic_eq, ofTopic_eq, hparts]
    split <;> rfl

/-- Two spellings of a path whose segments hold a dot, an ideographic space and wildcards. -/
theorem ofTopic_maps_parts_to_tokens_spelled_twice :
    let topic := "//cam.front/raw\u3000image///*>"
    let other := "cam.front/raw\u3000image/*>/"
    (∃ c ∈ topic.toList, c ≠ '/') ∧ parts topic = parts other ∧
      ofTopic topic = .ok "cam_front.raw_image.__" ∧
      ofTopic other = .ok "cam_front.raw_image.__" ∧
      List.Forall₂ StandsFor (tokens "cam_front.raw_image.__") (parts topic) ∧
      ofTopic (asPath "cam_front.raw_image.__") = .ok "cam_front.raw_image.__" := by
  intro topic other
  have hthere : ∃ c ∈ topic.toList, c ≠ '/' := ⟨'c', by decide +kernel, by decide⟩
  have hparts : parts topic = parts other := by decide +kernel
  have hmapped : (ofTopic topic).toOption = some "cam_front.raw_image.__" := by decide +kernel
  obtain ⟨htopics, halike, -⟩ := ofTopic_maps_parts_to_tokens
  have hother := (halike topic other hparts).symm.trans hmapped
  obtain ⟨subject, hsubject, hstands, hagain⟩ := (htopics topic).2 hthere
  rw [hsubject] at hmapped
  obtain rfl := Option.some.inj hmapped
  refine ⟨hthere, hparts, hsubject, ?_, hstands, hagain⟩
  cases hanswer : ofTopic other with
  | error e =>
    rw [hanswer] at hother
    cases hother
  | ok given =>
    rw [hanswer] at hother
    exact congrArg Except.ok (Option.some.inj hother)

end PacedImages.Subject
