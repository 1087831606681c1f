import PacedImages.Messaging.SubjectBook
import PacedImages.Proofs.Messaging.Tokens

/-!
# Prefixes of subjects

A prefix is given as tokens with dots between them, and dots at its end count for nothing. In front
of a subject it adds its tokens and no empty one, with one exception: a prefix of dots alone is not
empty before its dots are taken away, and so a dot is left in front of the subject.
-/

namespace PacedImages.Subject

variable {token : List Char} {ts : List (List Char)} {topic tail : String}

/-- A token as prefixes are made of. -/
structure IsToken (token : List Char) : Prop where
  ne_nil : token ≠ []
  plain : ∀ c ∈ token, ¬ IsSpecial c

theorem isToken_iff {token : List Char} :
    IsToken token ↔ token ≠ [] ∧ token.all (fun c => !isReserved c) = true := by
  simp only [List.all_eq_true, Bool.not_eq_true', ← Bool.not_eq_true, isReserved_iff]
  exact ⟨fun h => ⟨h.ne_nil, h.plain⟩, fun h => ⟨h.1, h.2⟩⟩

instance : DecidablePred IsToken := fun _ => decidable_of_iff _ isToken_iff.symm

/-- Tokens as a prefix, with so many dots behind them. -/
def prefixed (ts : List (List Char)) (dots : Nat) : String :=
  joined '.' ts ++ String.ofList (List.replicate dots '.')

theorem IsToken.not_mem_dot (h : IsToken token) : '.' ∉ token :=
  fun hdot => h.plain '.' hdot (Or.inl rfl)

/-- Tokens that are joined end with the last character of a token. -/
theorem exists_last (hts : ∀ token ∈ ts, IsToken token) (hsome : ts ≠ []) :
    ∃ c, (['.'].intercalate ts).getLast? = some c ∧ c ≠ '.' := by
  induction ts with
  | nil => exact absurd rfl hsome
  | cons first rest ih =>
    obtain ⟨hfirst, hrest⟩ := List.forall_mem_cons.mp hts
    cases rest with
    | nil =>
      rw [List.intercalate_singleton]
      refine ⟨first.getLast hfirst.ne_nil, List.getLast?_eq_some_getLast hfirst.ne_nil, ?_⟩
      intro hdot
      exact hfirst.not_mem_dot (hdot ▸ List.getLast_mem hfirst.ne_nil)
    | cons second others =>
      obtain ⟨c, hlast, hplain⟩ := ih hrest (List.cons_ne_nil _ _)
      refine ⟨c, ?_, hplain⟩
      rw [List.intercalate_cons_cons, List.getLast?_append, hlast]
      rfl

theorem intercalate_eq_nil_iff (hts : ∀ token ∈ ts, IsToken token) :
    ['.'].intercalate ts = [] ↔ ts = [] := by
  constructor
  · intro hnil
    by_contra hsome
    obtain ⟨c, hlast, -⟩ := exists_last hts hsome
    rw [hnil] at hlast
    cases hlast
  · rintro rfl
    rfl

/-- Only the dots behind the last token are taken away. -/
theorem lead_prefixed (hts : ∀ token ∈ ts, IsToken token) (dots : Nat) :
    lead (prefixed ts dots) = if ts = [] ∧ dots = 0 then "" else joined '.' ts ++ "." := by
  have htext : (prefixed ts dots).toList = ['.'].intercalate ts ++ List.replicate dots '.' := by
    rw [prefixed, String.toList_append, joined, String.toList_ofList, String.toList_ofList]
  have htrimmed : ((prefixed ts dots).toList.reverse.dropWhile (· == '.')).reverse =
      ['.'].intercalate ts := by
    rw [htext, List.reverse_append, List.reverse_replicate,
      List.dropWhile_append_of_pos fun c hc => by simp [List.eq_of_mem_replicate hc]]
    by_cases hsome : ts = []
    · subst hsome
      rfl
    · obtain ⟨c, hlast, hplain⟩ := exists_last hts hsome
      rw [List.getLast?_eq_head?_reverse] at hlast
      obtain ⟨others, hreverse⟩ := List.head?_eq_some_iff.mp hlast
      rw [hreverse, List.dropWhile_cons_of_neg (by simpa using hplain), ← hreverse,
        List.reverse_reverse]
  have hempty : (prefixed ts dots).isEmpty = true ↔ ts = [] ∧ dots = 0 := by
    rw [String.isEmpty_iff, ← String.toList_eq_nil_iff, htext, List.append_eq_nil_iff,
      List.replicate_eq_nil_iff, intercalate_eq_nil_iff hts]
  rw [lead, htrimmed]
  by_cases hnothing : ts = [] ∧ dots = 0
  · rw [if_pos hnothing, if_pos (hempty.mpr hnothing)]
  · rw [if_neg hnothing, if_neg (hempty.not.mpr hnothing), String.ofList_append]
    rfl

theorem subject_under (given topic : String) (h : ofTopic topic = .ok tail) :
    ((SubjectBook.under given).subject topic).1 = .ok (lead given ++ tail) := by
  rw [SubjectBook.subject, SubjectBook.under]
  simp [h]

theorem tokens_behind_dot (front : List Char) (tail : String) :
    tokens (String.ofList front ++ "." ++ tail) = front.splitOn '.' ++ tokens tail := by
  rw [tokens, String.toList_append, String.toList_append, String.toList_ofList, List.append_assoc]
  exact List.splitOn_append_cons_self front tail.toList

/-- The tokens of a prefix come before those of the topic. No token is empty, unless the prefix is
made of dots alone: then an empty one comes first. -/
theorem under_keeps_tokens_unless_dots_alone (hts : ∀ token ∈ ts, IsToken token) (dots : Nat)
    (htopic : ofTopic topic = .ok tail) :
    ∃ subject, ((SubjectBook.under (prefixed ts dots)).subject topic).1 = .ok subject ∧
      tokens subject = (if ts = [] ∧ 0 < dots then [[]] else ts) ++ tokens tail ∧
      ([] ∈ tokens subject ↔ ts = [] ∧ 0 < dots) := by
  have hfront : tokens (lead (prefixed ts dots) ++ tail) =
      (if ts = [] ∧ 0 < dots then [[]] else ts) ++ tokens tail := by
    rw [lead_prefixed hts]
    by_cases hnone : ts = []
    · subst hnone
      cases dots with
      | zero => rfl
      | succ n => exact tokens_behind_dot [] tail
    · rw [if_neg fun h => hnone h.1, if_neg fun h => hnone h.1, joined, tokens_behind_dot,
        List.splitOn_intercalate '.' (fun token h => (hts token h).not_mem_dot) hnone]
  have htail : [] ∉ tokens tail := by
    rw [tokens_ofTopic htopic]
    intro hmem
    obtain ⟨_, stands⟩ := exists_standsFor hmem
    exact stands.ne_nil rfl
  refine ⟨_, subject_under _ _ htopic, hfront, ?_⟩
  rw [hfront, List.mem_append, or_iff_left htail]
  by_cases halone : ts = [] ∧ 0 < dots
  · rw [if_pos halone]
    exact ⟨fun _ => halone, fun _ => List.mem_singleton_self _⟩
  · rw [if_neg halone]
    exact ⟨fun hmem => absurd rfl (hts [] hmem).ne_nil, fun h => absurd h halone⟩

/-- Three dots behind two tokens. -/
theorem under_keeps_tokens_unless_dots_alone_trailing :
    (∀ token ∈ ["bench".toList, "é".toList], IsToken token) ∧
      prefixed ["bench".toList, "é".toList] 3 = "bench.é..." ∧
      ofTopic "/a.b//c" = .ok "a_b.c" ∧
      ∃ subject, ((SubjectBook.under "bench.é...").subject "/a.b//c").1 = .ok subject ∧
        tokens subject = ["bench".toList, "é".toList, "a_b".toList, "c".toList] ∧
        [] ∉ tokens subject := by
  have hts : ∀ token ∈ ["bench".toList, "é".toList], IsToken token := by
    rw [List.forall_mem_cons, List.forall_mem_singleton]
    exact ⟨by decide +kernel, by decide +kernel⟩
  have hgiven : prefixed ["bench".toList, "é".toList] 3 = "bench.é..." := by decide +kernel
  have htopic : ofTopic "/a.b//c" = .ok "a_b.c" := by rfl
  obtain ⟨subject, hsubject, htokens, hempty⟩ := under_keeps_tokens_unless_dots_alone hts 3 htopic
  rw [hgiven] at hsubject
  refine ⟨hts, hgiven, htopic, subject, hsubject, ?_, ?_⟩
  · rw [htokens]
    decide +kernel
  · exact fun hmem => absurd (hempty.mp hmem).1 (List.cons_ne_nil _ _)

/-- A prefix that is one dot: nothing is left of it but the dot. -/
theorem dots_alone_leave_empty_token :
    prefixed [] 1 = "." ∧ ofTopic "image" = .ok "image" ∧
      ((SubjectBook.under ".").subject "image").1 = .ok ".image" ∧
      tokens ".image" = [[], "image".toList] ∧ tokens ".image" ≠ [] ++ tokens "image" := by
  have hdot : prefixed [] 1 = "." := by decide +kernel
  have htopic : ofTopic "image" = .ok "image" := by rfl
  refine ⟨hdot, htopic, ?_, by decide +kernel, by decide +kernel⟩
  have hsubject := subject_under "." "image" htopic
  rwa [show lead "." ++ "image" = ".image" by decide +kernel] at hsubject

end PacedImages.Subject
