import Mathlib.Tactic.Common
import OlapClient.Proofs.Number.Numeral

/-!
# The grammar of numerals

A numeral is one or more decimal digits behind a sign or without one, and it denotes what the digits
do, with the sign.  `readBounded_eq_ok_iff` says that the reader of a format reads the numerals of
the integers of the format, a minus sign only where the format has a sign.  The reader of integers
of any size also reads digits with underscores among them (`readWhole_eq_some_iff`), but
`denotes_iff` says that it reads nothing else beside the numerals.
-/

namespace OlapClient.Number

open Nat (ofDigitChars)

/-! ### Numerals -/

/-- A text is a body behind a sign or without one; `negative` says that the sign is a minus. -/
inductive Signed (body : List Char) : Bool → List Char → Prop where
  | bare : Signed body false body
  | plus : Signed body false ('+' :: body)
  | minus : Signed body true ('-' :: body)

/-- One or more decimal digits. -/
def IsDigits (cs : List Char) : Prop :=
  cs ≠ [] ∧ ∀ c ∈ cs, isDigit c

instance (cs : List Char) : Decidable (IsDigits cs) :=
  decidable_of_iff (cs ≠ [] ∧ cs.all isDigit) (by rw [IsDigits, List.all_eq_true])

/-- A text is a numeral of an integer. -/
def Denotes (cs : List Char) (n : Int) : Prop :=
  ∃ negative digits, Signed digits negative cs ∧ IsDigits digits
    ∧ n = withSign negative (digitsValue digits)

/-- A text is a numeral of an integer of a format, where a format without a sign has numerals
without a minus sign only. -/
structure DenotesIn (k : IntKind) (cs : List Char) (n : Int) : Prop where
  denotes : Denotes cs n
  holds : k.Holds n
  signed : k.signed ∨ cs.head? ≠ some '-'

/-- Decimal digits and underscores, beginning with a digit. -/
structure IsSpaced (cs : List Char) : Prop where
  begins : ∃ c rest, cs = c :: rest ∧ isDigit c
  spaced : ∀ c ∈ cs, isDigit c ∨ c = '_'

/-- A text without its underscores. -/
def unspaced (cs : List Char) : List Char :=
  cs.filter (· ≠ '_')

/-- A text is a numeral of an integer but for underscores behind the first digit. -/
def DenotesSpaced (cs : List Char) (n : Int) : Prop :=
  ∃ negative body, Signed body negative cs ∧ IsSpaced body
    ∧ n = withSign negative (digitsValue (unspaced body))

/-- Digits make less than a one with as many zeros does. -/
theorem ofDigitChars_lt {digits : List Char} (all : ∀ c ∈ digits, isDigit c) (n : Nat) :
  ofDigitChars 10 digits n < (n + 1) * 10 ^ digits.length
  := by
  induction digits generalizing n with
  | nil => simp
  | cons c digits ih =>
    obtain ⟨-, high⟩ := isDigit_iff.mp (all c List.mem_cons_self)
    have digit : 10 * n + (c.toNat - '0'.toNat) + 1 ≤ (n + 1) * 10 := by
      have zero : '0'.toNat = 48 := rfl
      omega
    rw [Nat.ofDigitChars_cons, List.length_cons, Nat.pow_succ', ← Nat.mul_assoc]
    apply Nat.lt_of_lt_of_le (ih (fun c' mem => all c' (List.mem_cons_of_mem c mem)) _)
    apply Nat.mul_le_mul_right _ digit

theorem digitsValue_lt {digits : List Char} (all : ∀ c ∈ digits, isDigit c) :
  digitsValue digits < 10 ^ digits.length
  := by
  have bound := ofDigitChars_lt all 0
  rwa [Nat.zero_add, Nat.one_mul, ← digitsValue_eq] at bound

theorem IsDigits.head_ne {c mark : Char} {cs : List Char} (h : IsDigits (c :: cs))
    (apart : isDigit mark = false) :
  c ≠ mark
  := ne_of_isDigit (h.2 c List.mem_cons_self) apart

theorem IsSpaced.head?_ne {cs : List Char} (h : IsSpaced cs) {mark : Char}
    (apart : isDigit mark = false) :
  cs.head? ≠ some mark
  := by
  obtain ⟨c, rest, rfl, digit⟩ := h.begins
  simpa using ne_of_isDigit digit apart

theorem IsSpaced.head_ne {c mark : Char} {cs : List Char} (h : IsSpaced (c :: cs))
    (apart : isDigit mark = false) :
  c ≠ mark
  := by simpa using h.head?_ne apart

theorem digit?_eq_some_iff {c : Char} {d : Nat} :
  digit? 10 c = some d ↔ isDigit c ∧ d = c.toNat - '0'.toNat
  := by
  constructor
  · intro read
    have digit : isDigit c := by
      by_contra other
      have outside : ¬ ('0' ≤ c ∧ c ≤ '9') := by simpa [isDigit] using other
      simp only [digit?, if_neg outside] at read
      -- a letter is worth ten or more
      split_ifs at read <;> omega
    rw [digit?_of_isDigit digit] at read
    exact ⟨digit, (Option.some.inj read).symm⟩
  · rintro ⟨digit, rfl⟩
    apply digit?_of_isDigit digit

/-! ### The reader of a format -/

theorem withSign_step (negative : Bool) (m d : Nat) :
  withSign negative m * (10 : Nat) + (if negative then -(d : Int) else d)
    = withSign negative (10 * m + d)
  := by
  rw [withSign, withSign]
  split <;> omega

/-- What is read from digits is what they denote after what was read before. -/
theorem digits_of_readDigits
    {k : IntKind} {negative : Bool} {cs : List Char} {a : Nat} {acc b : Bounded k}
    (start : acc.val = withSign negative a) (read : readDigits 10 k negative acc cs = .ok b) :
  (∀ c ∈ cs, isDigit c) ∧ b.val = withSign negative (ofDigitChars 10 cs a)
  := by
  induction cs generalizing a acc with
  | nil =>
    rw [readDigits] at read
    cases read
    exact ⟨by simp, start⟩
  | cons c cs ih =>
    rw [readDigits] at read
    cases digit : digit? 10 c with
    | none =>
      rw [digit] at read
      cases read
    | some d =>
      obtain ⟨isDigit, value⟩ := digit?_eq_some_iff.mp digit
      simp only [digit, start, withSign_step] at read
      cases next : Bounded.ofInt? k (withSign negative (10 * a + d)) with
      | none =>
        rw [next] at read
        cases read
      | some acc' =>
        rw [next] at read
        obtain ⟨all, result⟩ := ih (Bounded.ofInt?_eq_some_iff.mp next) read
        rw [value, ← Nat.ofDigitChars_cons] at result
        exact ⟨List.forall_mem_cons.mpr ⟨isDigit, all⟩, result⟩

theorem readDigits_eq_ok_iff
    {k : IntKind} {negative : Bool} {cs : List Char} {b : Bounded k} :
  readDigits 10 k negative (.zero k) cs = .ok b
    ↔ (∀ c ∈ cs, isDigit c) ∧ b.val = withSign negative (digitsValue cs)
  := by
  have zero : (Bounded.zero k).val = withSign negative 0 := by cases negative <;> rfl
  rw [digitsValue_eq]
  constructor
  · apply digits_of_readDigits zero
  · rintro ⟨all, value⟩
    apply readDigits_digits all zero value

section

variable (k : IntKind)

theorem readBounded_plus {digits : List Char} (some_digit : digits ≠ []) :
  readBounded 10 k ('+' :: digits) = readDigits 10 k false (.zero k) digits
  := by
  cases digits with
  | nil => contradiction
  | cons c digits =>
    rw [readBounded]
    simp

theorem readBounded_minus_eq {digits : List Char} (some_digit : digits ≠ []) :
  readBounded 10 k ('-' :: digits)
    = if k.signed then readDigits 10 k true (.zero k) digits else .error .invalidDigit
  := by
  cases digits with
  | nil => contradiction
  | cons c digits =>
    rw [readBounded]
    simp

theorem readBounded_cons {c : Char} (plus : c ≠ '+') (minus : c ≠ '-') (cs : List Char) :
  readBounded 10 k (c :: cs) = readDigits 10 k false (.zero k) (c :: cs)
  := by
  rw [readBounded] <;> simp [plus, minus]

end

theorem denotesIn_of_readDigits
    {k : IntKind} {negative : Bool} {digits cs : List Char} {b : Bounded k}
    (sign : Signed digits negative cs) (some_digit : digits ≠ [])
    (signed : k.signed ∨ cs.head? ≠ some '-')
    (read : readDigits 10 k negative (.zero k) digits = .ok b) :
  DenotesIn k cs b.val
  := by
  obtain ⟨all, value⟩ := readDigits_eq_ok_iff.mp read
  constructor
  · exact ⟨negative, digits, sign, ⟨some_digit, all⟩, value⟩
  · apply b.holds
  · apply signed

theorem denotesIn_of_readBounded
    {k : IntKind} {cs : List Char} {b : Bounded k} (read : readBounded 10 k cs = .ok b) :
  DenotesIn k cs b.val
  := by
  cases cs with
  | nil => cases read
  | cons c cs =>
    by_cases plus : c = '+'
    · subst plus
      by_cases lone : cs = []
      · subst lone
        cases read
      · rw [readBounded_plus k lone] at read
        apply denotesIn_of_readDigits .plus lone (.inr (by simp)) read
    · by_cases minus : c = '-'
      · subst minus
        by_cases lone : cs = []
        · subst lone
          cases read
        · rw [readBounded_minus_eq k lone] at read
          split at read
          · rename_i signed
            apply denotesIn_of_readDigits .minus lone (.inl signed) read
          · cases read
      · rw [readBounded_cons k plus minus] at read
        apply denotesIn_of_readDigits .bare (by simp) (.inr (by simpa using minus)) read

theorem readBounded_of_denotesIn
    {k : IntKind} {cs : List Char} {b : Bounded k} (h : DenotesIn k cs b.val) :
  readBounded 10 k cs = .ok b
  := by
  obtain ⟨⟨negative, digits, sign, isDigits, value⟩, -, signed⟩ := h
  have read : readDigits 10 k negative (.zero k) digits = .ok b :=
    readDigits_eq_ok_iff.mpr ⟨isDigits.2, value⟩
  cases sign with
  | bare =>
    cases cs with
    | nil => apply absurd rfl isDigits.1
    | cons c cs => rw [readBounded_cons k (isDigits.head_ne rfl) (isDigits.head_ne rfl), read]
  | plus => rw [readBounded_plus k isDigits.1, read]
  | minus =>
    have signed : k.signed := by simpa using signed
    rw [readBounded_minus_eq k isDigits.1, if_pos signed, read]

/-- The reader of a format reads the numerals of the integers of the format. -/
theorem readBounded_eq_ok_iff {k : IntKind} {cs : List Char} {b : Bounded k} :
  readBounded 10 k cs = .ok b ↔ DenotesIn k cs b.val
  := ⟨denotesIn_of_readBounded, readBounded_of_denotesIn⟩

/-! ### The reader of integers of any size -/

theorem unspaced_cons_underscore (cs : List Char) :
  unspaced ('_' :: cs) = unspaced cs
  := rfl

theorem unspaced_cons_of_isDigit {c : Char} (h : isDigit c) (cs : List Char) :
  unspaced (c :: cs) = c :: unspaced cs
  := by
  have apart : c ≠ '_' := ne_of_isDigit h rfl
  simp [unspaced, apart]

/-- What is read from digits and underscores is what the digits denote after what was read
before. -/
theorem readSpacedDigits_eq_some_iff {cs : List Char} {a n : Nat} :
  readSpacedDigits a cs = some n
    ↔ (∀ c ∈ cs, isDigit c ∨ c = '_') ∧ n = ofDigitChars 10 (unspaced cs) a
  := by
  induction cs generalizing a with
  | nil =>
    rw [readSpacedDigits, Option.some.injEq, eq_comm]
    simp [unspaced]
  | cons c cs ih =>
    rw [List.forall_mem_cons]
    by_cases space : c = '_'
    · rw [space, readSpacedDigits, ih, unspaced_cons_underscore, or_iff_right (by decide)]
      simp
    · rw [readSpacedDigits, or_iff_left space]
      · by_cases digit : isDigit c
        · rw [digit?_of_isDigit digit, Option.bind_some, ih, unspaced_cons_of_isDigit digit,
            Nat.ofDigitChars_cons, Nat.mul_comm, and_iff_right digit]
        · cases read : digit? 10 c with
          | none => simp [digit]
          | some d => apply absurd (digit?_eq_some_iff.mp read).1 digit
      · exact space

/-- A text that does not begin with an underscore is read where it is spaced. -/
theorem readSpacedDigits_zero_eq_some_iff {c : Char} {cs : List Char} {n : Nat} (first : c ≠ '_') :
  readSpacedDigits 0 (c :: cs) = some n
    ↔ IsSpaced (c :: cs) ∧ n = digitsValue (unspaced (c :: cs))
  := by
  rw [readSpacedDigits_eq_some_iff, digitsValue_eq]
  apply and_congr_left
  intro _
  constructor
  · intro spaced
    exact ⟨⟨c, cs, rfl, (spaced c List.mem_cons_self).resolve_right first⟩, spaced⟩
  · apply IsSpaced.spaced

theorem readSpacedNat_cons {c : Char} (plus : c ≠ '+') (first : c ≠ '_') (cs : List Char) :
  readSpacedNat (c :: cs) = readSpacedDigits 0 (c :: cs)
  := by simp [readSpacedNat, plus, first]

theorem readSpacedNat_plus_cons {c : Char} (plus : c ≠ '+') (first : c ≠ '_') (cs : List Char) :
  readSpacedNat ('+' :: c :: cs) = readSpacedDigits 0 (c :: cs)
  := by simp [readSpacedNat, plus, first]

theorem spaced_of_readSpacedNat {cs : List Char} {n : Nat} (read : readSpacedNat cs = some n) :
  ∃ body, Signed body false cs ∧ IsSpaced body ∧ n = digitsValue (unspaced body)
  := by
  cases cs with
  | nil => cases read
  | cons c cs =>
    by_cases first : c = '_'
    · subst first
      cases read
    by_cases plus : c = '+'
    · subst plus
      cases cs with
      | nil => cases read
      | cons c' cs =>
        by_cases first' : c' = '_'
        · subst first'
          cases read
        by_cases plus' : c' = '+'
        · subst plus'
          obtain ⟨spaced, -⟩ := (readSpacedDigits_zero_eq_some_iff first).mp read
          apply absurd rfl (spaced.head_ne (by decide))
        · rw [readSpacedNat_plus_cons plus' first',
            readSpacedDigits_zero_eq_some_iff first'] at read
          exact ⟨c' :: cs, .plus, read⟩
    · rw [readSpacedNat_cons plus first, readSpacedDigits_zero_eq_some_iff first] at read
      exact ⟨c :: cs, .bare, read⟩

theorem readSpacedNat_of_spaced {body cs : List Char} (sign : Signed body false cs)
    (spaced : IsSpaced body) :
  readSpacedNat cs = some (digitsValue (unspaced body))
  := by
  cases body with
  | nil =>
    obtain ⟨c, rest, none, -⟩ := spaced.begins
    cases none
  | cons c body =>
    have plus : c ≠ '+' := spaced.head_ne rfl
    have first : c ≠ '_' := spaced.head_ne rfl
    have read := (readSpacedDigits_zero_eq_some_iff first).mpr ⟨spaced, rfl⟩
    cases sign with
    | bare => rw [readSpacedNat_cons plus first, read]
    | plus => rw [readSpacedNat_plus_cons plus first, read]

theorem readWhole_minus {cs : List Char} (plus : cs.head? ≠ some '+') :
  readWhole ('-' :: cs) = (readSpacedNat cs).map (withSign true)
  := by
  cases cs with
  | nil => rfl
  | cons c cs =>
    rw [readWhole]
    · cases readSpacedNat (c :: cs) <;> rfl
    · rintro cs' ⟨⟩
      contradiction

theorem readWhole_of_head {cs : List Char} (minus : cs.head? ≠ some '-') :
  readWhole cs = (readSpacedNat cs).map (withSign false)
  := by
  rw [readWhole]
  · cases readSpacedNat cs <;> rfl
  · rintro cs' rfl
    contradiction
  · rintro cs' rfl
    contradiction

theorem spaced_of_readWhole {cs : List Char} {n : Int} (read : readWhole cs = some n) :
  DenotesSpaced cs n
  := by
  by_cases minus : cs.head? = some '-'
  · obtain ⟨rest, rfl⟩ := List.head?_eq_some_iff.mp minus
    by_cases plus : rest.head? = some '+'
    · obtain ⟨rest, rfl⟩ := List.head?_eq_some_iff.mp plus
      cases read
    · rw [readWhole_minus plus, Option.map_eq_some_iff] at read
      obtain ⟨m, read, rfl⟩ := read
      obtain ⟨body, sign, spaced, rfl⟩ := spaced_of_readSpacedNat read
      cases sign with
      | bare => exact ⟨true, rest, .minus, spaced, rfl⟩
      | plus => contradiction
  · rw [readWhole_of_head minus, Option.map_eq_some_iff] at read
    obtain ⟨m, read, rfl⟩ := read
    obtain ⟨body, sign, spaced, rfl⟩ := spaced_of_readSpacedNat read
    exact ⟨false, body, sign, spaced, rfl⟩

theorem readWhole_of_spaced {cs : List Char} {n : Int} (h : DenotesSpaced cs n) :
  readWhole cs = some n
  := by
  obtain ⟨negative, body, sign, spaced, rfl⟩ := h
  cases sign with
  | bare =>
    rw [readWhole_of_head (spaced.head?_ne rfl), readSpacedNat_of_spaced .bare spaced]
    rfl
  | plus =>
    rw [readWhole_of_head (by simp), readSpacedNat_of_spaced .plus spaced]
    rfl
  | minus =>
    rw [readWhole_minus (spaced.head?_ne rfl), readSpacedNat_of_spaced .bare spaced]
    rfl

/-- The reader of integers of any size reads the numerals that may have underscores behind the first
digit. -/
theorem readWhole_eq_some_iff {cs : List Char} {n : Int} :
  readWhole cs = some n ↔ DenotesSpaced cs n
  := ⟨spaced_of_readWhole, readWhole_of_spaced⟩

/-! ### The two grammars -/

theorem isDigits_iff {cs : List Char} :
  IsDigits cs ↔ IsSpaced cs ∧ '_' ∉ cs
  := by
  constructor
  · rintro ⟨some_digit, all⟩
    constructor
    · constructor
      · obtain ⟨c, rest, rfl⟩ := List.exists_cons_of_ne_nil some_digit
        exact ⟨c, rest, rfl, all c List.mem_cons_self⟩
      · intro c mem
        apply Or.inl (all c mem)
    · intro mem
      cases all _ mem
  · rintro ⟨spaced, none⟩
    constructor
    · obtain ⟨c, rest, rfl, -⟩ := spaced.begins
      apply List.cons_ne_nil
    · intro c mem
      apply (spaced.spaced c mem).resolve_right
      rintro rfl
      apply none mem

theorem unspaced_eq_self {cs : List Char} (none : '_' ∉ cs) :
  unspaced cs = cs
  := by
  rw [unspaced, List.filter_eq_self]
  intro c mem
  apply decide_eq_true
  rintro rfl
  apply none mem

theorem Signed.mem_iff {body cs : List Char} {negative : Bool} (h : Signed body negative cs) :
  '_' ∈ cs ↔ '_' ∈ body
  := by
  cases h with
  | bare => rfl
  | plus => simp
  | minus => simp

/-- A numeral is what the reader of integers of any size reads and has no underscore in it. -/
theorem denotes_iff {cs : List Char} {n : Int} :
  Denotes cs n ↔ DenotesSpaced cs n ∧ '_' ∉ cs
  := by
  constructor
  · rintro ⟨negative, digits, sign, isDigits, rfl⟩
    obtain ⟨spaced, none⟩ := isDigits_iff.mp isDigits
    use ⟨negative, digits, sign, spaced, by rw [unspaced_eq_self none]⟩
    rw [sign.mem_iff]
    apply none
  · rintro ⟨⟨negative, body, sign, spaced, rfl⟩, none⟩
    rw [sign.mem_iff] at none
    exact ⟨negative, body, sign, isDigits_iff.mpr ⟨spaced, none⟩, by rw [unspaced_eq_self none]⟩

theorem ne_nil_of_denotes {cs : List Char} {n : Int} (h : Denotes cs n) :
  cs ≠ []
  := by
  obtain ⟨negative, digits, sign, ⟨some_digit, -⟩, -⟩ := h
  cases sign with
  | bare => apply some_digit
  | plus => apply List.cons_ne_nil
  | minus => apply List.cons_ne_nil

end OlapClient.Number
