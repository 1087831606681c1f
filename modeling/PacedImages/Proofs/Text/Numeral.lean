import PacedImages.Text.Numeral

/-!
# Decimal numerals

Which texts spell a number, and that the readers of decimal numerals take those texts of numbers in
their range and no others. The readers undo the writing of numbers.
-/

namespace PacedImages.Text

theorem digitValue?_of_isDigit {c : Char} (h : c.isDigit = true) :
    digitValue? 10 c = some (c.toNat - '0'.toNat) := by
  have hrange : '0' ≤ c ∧ c ≤ '9' := by
    simpa [Char.isDigit, Char.le_def] using h
  have hlt : c.toNat - '0'.toNat < 10 := by
    have hle : c.toNat ≤ '9'.toNat := hrange.2
    have h9 : '9'.toNat = 57 := rfl
    have h0 : '0'.toNat = 48 := rfl
    omega
  simp only [digitValue?, if_pos hrange, if_pos hlt]

theorem digitsFrom?_of_isDigit {cs : List Char} (h : ∀ c ∈ cs, c.isDigit = true) (acc : Nat) :
    digitsFrom? 10 cs acc = some (Nat.ofDigitChars 10 cs acc) := by
  induction cs generalizing acc with
  | nil => rw [digitsFrom?, Nat.ofDigitChars_nil]
  | cons c rest ih =>
    have hc := digitValue?_of_isDigit (h c List.mem_cons_self)
    have hrest := ih fun d hd => h d (List.mem_cons_of_mem c hd)
    simp only [digitsFrom?, hc, hrest, Nat.ofDigitChars_cons, Nat.mul_comm acc 10]

theorem isDigit_of_mem_toDigits {n : Nat} {c : Char} (h : c ∈ Nat.toDigits 10 n) :
    c.isDigit = true :=
  Nat.isDigit_of_mem_toDigits (by decide) (by decide) h

theorem digits?_toDigits (n : Nat) : digits? 10 (Nat.toDigits 10 n) = some n := by
  have hnonempty : (Nat.toDigits 10 n).isEmpty = false := by simp
  rw [digits?, hnonempty, digitsFrom?_of_isDigit fun c hc => isDigit_of_mem_toDigits hc,
    Nat.ofDigitChars_ten_toDigits]
  rfl

/-- A written number starts with a digit, so with no sign. -/
theorem toDigits_ne_cons {n : Nat} {c : Char} (h : c.isDigit = false) (rest : List Char) :
    Nat.toDigits 10 n ≠ c :: rest := by
  intro heq
  have hmem : c ∈ Nat.toDigits 10 n := heq ▸ List.mem_cons_self
  rw [isDigit_of_mem_toDigits hmem] at h
  cases h

theorem readNat?_toString {n limit : Nat} (h : n < limit) :
    readNat? limit (toString n).toList = some n := by
  have hplus : ∀ rest, Nat.toDigits 10 n ≠ '+' :: rest := toDigits_ne_cons rfl
  rw [Nat.toString_eq_repr, Nat.toList_repr, readNat?, digits?_toDigits, Option.filter_some,
    if_pos (decide_eq_true h)]
  exact hplus

theorem readInt?_toString {n low high : Int} (hlow : low ≤ n) (hhigh : n ≤ high) :
    readInt? low high (toString n).toList = some n := by
  have hrange : (decide (low ≤ n) && decide (n ≤ high)) = true := by simp [hlow, hhigh]
  rw [Int.toString_eq_repr, Int.repr_eq_if]
  by_cases hsign : 0 ≤ n
  · have hplus : ∀ rest, Nat.toDigits 10 n.toNat ≠ '+' :: rest := toDigits_ne_cons rfl
    have hminus : ∀ rest, Nat.toDigits 10 n.toNat ≠ '-' :: rest := toDigits_ne_cons rfl
    have hvalue : Int.ofNat n.toNat = n := Int.toNat_of_nonneg hsign
    rw [if_pos hsign, Nat.toList_repr, readInt?, digits?_toDigits, Option.map_some, hvalue,
      Option.filter_some, if_pos hrange]
    · exact hplus
    · exact hminus
  · have hvalue : -((-n).toNat : Int) = n := by omega
    have hlist : ("-" ++ (-n).toNat.repr).toList = '-' :: Nat.toDigits 10 (-n).toNat := by
      rw [String.toList_append, Nat.toList_repr]
      rfl
    rw [if_neg hsign, hlist, readInt?, digits?_toDigits]
    show Option.filter _ (some (-((-n).toNat : Int))) = some n
    rw [hvalue, Option.filter_some, if_pos hrange]

/-! ## The grammar of numerals -/

/-- One or more decimal digits, and the number that they stand for. -/
structure IsDecimal (cs : List Char) (n : Nat) : Prop where
  nonempty : cs ≠ []
  digits : ∀ c ∈ cs, c.isDigit = true
  value : Nat.ofDigitChars 10 cs 0 = n

/-- The texts that spell a number: digits, with a plus sign in front or, if numerals can be signed,
a minus sign. -/
inductive Spells (signed : Bool) : List Char → Int → Prop where
  | plain {cs : List Char} {n : Nat} : IsDecimal cs n → Spells signed cs n
  | plus {cs : List Char} {n : Nat} : IsDecimal cs n → Spells signed ('+' :: cs) n
  | minus {cs : List Char} {n : Nat} : signed = true → IsDecimal cs n →
      Spells signed ('-' :: cs) (-n)

variable {cs : List Char} {signed : Bool}

theorem digitValue?_of_not_isDigit {c : Char} (h : ¬ c.isDigit = true) :
    digitValue? 10 c = none := by
  have hrange : ¬ ('0' ≤ c ∧ c ≤ '9') := by
    simpa [Char.isDigit, Char.le_def] using h
  simp only [digitValue?, if_neg hrange]
  refine if_neg ?_
  split
  · omega
  · split <;> omega

theorem isDigit_of_digitsFrom? {acc n : Nat} (h : digitsFrom? 10 cs acc = some n) :
    ∀ c ∈ cs, c.isDigit = true := by
  induction cs generalizing acc with
  | nil => exact nofun
  | cons c rest ih =>
    by_cases hc : c.isDigit = true
    · simp only [digitsFrom?, digitValue?_of_isDigit hc] at h
      intro d hd
      rcases List.mem_cons.mp hd with rfl | hd
      · exact hc
      · exact ih h d hd
    · simp only [digitsFrom?, digitValue?_of_not_isDigit hc] at h
      cases h

theorem digits?_eq_some_iff {n : Nat} : digits? 10 cs = some n ↔ IsDecimal cs n := by
  cases cs with
  | nil => exact ⟨nofun, fun h => absurd rfl h.nonempty⟩
  | cons c rest =>
    show digitsFrom? 10 (c :: rest) 0 = some n ↔ _
    constructor
    · intro h
      have hdigits := isDigit_of_digitsFrom? h
      rw [digitsFrom?_of_isDigit hdigits] at h
      exact ⟨List.cons_ne_nil c rest, hdigits, Option.some.inj h⟩
    · intro h
      rw [digitsFrom?_of_isDigit h.digits, h.value]

theorem IsDecimal.head_isDigit {c : Char} {n : Nat} (h : IsDecimal (c :: cs) n) :
    c.isDigit = true :=
  h.digits c List.mem_cons_self

theorem spells_plus {n : Int} :
    Spells signed ('+' :: cs) n ↔ ∃ m : Nat, n = m ∧ IsDecimal cs m := by
  constructor
  · intro h
    cases h with
    | plain decimal => exact absurd decimal.head_isDigit (by decide)
    | plus decimal => exact ⟨_, rfl, decimal⟩
  · rintro ⟨m, rfl, decimal⟩
    exact .plus decimal

theorem spells_minus {n : Int} :
    Spells signed ('-' :: cs) n ↔ signed = true ∧ ∃ m : Nat, n = -m ∧ IsDecimal cs m := by
  constructor
  · intro h
    cases h with
    | plain decimal => exact absurd decimal.head_isDigit (by decide)
    | minus hsigned decimal => exact ⟨hsigned, _, rfl, decimal⟩
  · rintro ⟨hsigned, m, rfl, decimal⟩
    exact .minus hsigned decimal

/-- Without a sign that may stand there, only digits spell a number. -/
theorem spells_digits (hplus : ∀ rest, cs ≠ '+' :: rest)
    (hminus : signed = true → ∀ rest, cs ≠ '-' :: rest) {n : Int} :
    Spells signed cs n ↔ ∃ m : Nat, n = m ∧ IsDecimal cs m := by
  constructor
  · intro h
    cases h with
    | plain decimal => exact ⟨_, rfl, decimal⟩
    | plus decimal => exact absurd rfl (hplus _)
    | minus hsigned decimal => exact absurd rfl (hminus hsigned _)
  · rintro ⟨m, rfl, decimal⟩
    exact .plain decimal

/-- A text spells no two numbers. -/
theorem Spells.eq {n m : Int} (spells : Spells signed cs n) (spells' : Spells signed cs m) :
    n = m := by
  have hsign {c : Char} {rest : List Char} {k : Nat} (decimal : IsDecimal (c :: rest) k)
      (hc : c.isDigit = false) : False := by
    rw [decimal.head_isDigit] at hc
    cases hc
  cases spells with
  | plain decimal =>
    cases spells' with
    | plain decimal' => rw [← decimal.value, ← decimal'.value]
    | plus _ => exact (hsign decimal rfl).elim
    | minus _ _ => exact (hsign decimal rfl).elim
  | plus decimal =>
    obtain ⟨_, rfl, decimal'⟩ := spells_plus.mp spells'
    rw [← decimal.value, ← decimal'.value]
  | minus _ decimal =>
    obtain ⟨_, _, rfl, decimal'⟩ := spells_minus.mp spells'
    rw [← decimal.value, ← decimal'.value]

theorem map_digits?_eq_some_iff {value : Nat → Int} {n : Int} :
    (digits? 10 cs).map value = some n ↔ ∃ m : Nat, n = value m ∧ IsDecimal cs m := by
  simp only [Option.map_eq_some_iff, digits?_eq_some_iff]
  exact exists_congr fun m => and_comm.trans (and_congr_left fun _ => eq_comm)

theorem readNat?_eq_some_iff {limit n : Nat} :
    readNat? limit cs = some n ↔ Spells false cs n ∧ n < limit := by
  have hvalue (digits : List Char) :
      digits? 10 digits = some n ↔ ∃ m : Nat, (n : Int) = m ∧ IsDecimal digits m := by
    rw [digits?_eq_some_iff]
    refine ⟨fun decimal => ⟨n, rfl, decimal⟩, ?_⟩
    rintro ⟨m, heq, decimal⟩
    rwa [Int.ofNat_inj.mp heq]
  unfold readNat?
  rw [Option.filter_eq_some_iff, decide_eq_true_eq]
  refine and_congr_left fun _ => ?_
  split
  · rw [spells_plus, hvalue]
  · next hplus =>
    have hminus : false = true → ∀ rest, cs ≠ '-' :: rest := nofun
    rw [spells_digits hplus hminus, hvalue]

theorem readInt?_eq_some_iff {low high n : Int} :
    readInt? low high cs = some n ↔ Spells true cs n ∧ low ≤ n ∧ n ≤ high := by
  unfold readInt?
  rw [Option.filter_eq_some_iff, Bool.and_eq_true, decide_eq_true_eq, decide_eq_true_eq]
  refine and_congr_left fun _ => ?_
  split
  · rw [spells_plus, map_digits?_eq_some_iff]
    rfl
  · next rest =>
    have hnegated : (digits? 10 rest >>= fun n => pure (n : Int)).map (fun n => -n) =
        (digits? 10 rest).map fun n : Nat => -(n : Int) := by
      cases digits? 10 rest <;> rfl
    rw [spells_minus, hnegated, map_digits?_eq_some_iff]
    exact (and_iff_right rfl).symm
  · next hplus hminus =>
    rw [spells_digits hplus fun _ => hminus, map_digits?_eq_some_iff]
    rfl

end PacedImages.Text
