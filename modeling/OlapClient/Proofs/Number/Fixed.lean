import Mathlib.Algebra.Field.Rat
import Mathlib.Tactic.Common
import OlapClient.Number.Fixed
import OlapClient.Proofs.Number.Literal

/-!
# Decimals that a fixed decimal has room for

The reader of fixed decimals refuses the first digit that there is no room for, and more digits
never make room: a literal without an exponent is read exactly when all its digits together and its
fraction digits are few enough (`read?_of_spells`).  Integers take another way, through the signed
128-bit integers, and are accepted all the same where their decimals are
(`ofInt?_eq_ofDecimal?`).
-/

namespace OlapClient.Number.FixedDecimal

open Nat (ofDigitChars)

/-! ### Parts -/

theorem ofParts?_eq_some_iff {n : Int} {scale : Nat} {d : FixedDecimal} :
  ofParts? n scale = some d ↔ d.unscaled = n ∧ d.scale = scale
  := by
  rw [ofParts?]
  split
  · rename_i small
    rw [Option.some.injEq]
    constructor
    · rintro rfl
      exact ⟨rfl, rfl⟩
    · rintro ⟨rfl, rfl⟩
      rfl
  · rename_i large
    constructor
    · intro none
      cases none
    · rintro ⟨rfl, rfl⟩
      apply absurd ⟨d.unscaled_lt, d.scale_le⟩ large

theorem ofParts?_eq_none_iff {n : Int} {scale : Nat} :
  ofParts? n scale = none ↔ ¬ (n.natAbs < 2 ^ 96 ∧ scale ≤ 28)
  := by
  rw [ofParts?, dite_eq_right_iff]
  simp

theorem natAbs_withSign (negative : Bool) (n : Nat) :
  (withSign negative n).natAbs = n
  := by
  rw [withSign]
  split <;> omega

/-- There is no room for more digits where there is none for fewer. -/
theorem ofParts?_eq_none_of_le
    {negative : Bool} {m n : Nat} {scale scale' : Nat}
    (refused : ofParts? (withSign negative m) scale = none) (le : m ≤ n) (places : scale ≤ scale') :
  ofParts? (withSign negative n) scale' = none
  := by
  rw [ofParts?_eq_none_iff, natAbs_withSign] at *
  omega

/-! ### Reading digits -/

section

variable {negative pointed : Bool} {a : Nat} {acc : FixedDecimal}
  (start : acc.unscaled = withSign negative a)

include start

theorem readDigits_cons {c : Char} (digit : isDigit c) (rest : List Char) :
  readDigits negative pointed acc (c :: rest)
    = (ofParts? (withSign negative (10 * a + (c.toNat - '0'.toNat)))
        (acc.scale + if pointed then 1 else 0)).bind
          fun next => readDigits negative pointed next rest
  := by
  have point : c ≠ '.' := ne_of_isDigit digit rfl
  have scale : (if pointed then acc.scale + 1 else acc.scale)
      = acc.scale + if pointed then 1 else 0 := by
    cases pointed <;> rfl
  rw [readDigits, digit?_of_isDigit digit, start, scale, ← withSign_step]
  · rfl
  · apply point

/-- Digits are read as what they make of the number before them, if there is room for it. -/
theorem readDigits_append {digits : List Char} (all : ∀ c ∈ digits, isDigit c) (rest : List Char) :
  readDigits negative pointed acc (digits ++ rest)
    = (ofParts? (withSign negative (ofDigitChars 10 digits a))
        (acc.scale + if pointed then digits.length else 0)).bind
          fun next => readDigits negative pointed next rest
  := by
  induction digits generalizing a acc with
  | nil =>
    have self : ofParts? (withSign negative a) acc.scale = some acc :=
      ofParts?_eq_some_iff.mpr ⟨start, rfl⟩
    simp [self]
  | cons c digits ih =>
    rw [List.cons_append, readDigits_cons start (all c List.mem_cons_self), Nat.ofDigitChars_cons]
    have places : (acc.scale + if pointed then 1 else 0) + (if pointed then digits.length else 0)
        = acc.scale + if pointed then (c :: digits).length else 0 := by
      cases pointed
      · rfl
      · simp only [if_true, List.length_cons]
        omega
    rw [← places]
    cases first : ofParts? (withSign negative (10 * a + (c.toNat - '0'.toNat)))
        (acc.scale + if pointed then 1 else 0) with
    | none =>
      rw [ofParts?_eq_none_of_le first (le_ofDigitChars digits _) (Nat.le_add_right _ _)]
      rfl
    | some next =>
      obtain ⟨unscaled, scale⟩ := ofParts?_eq_some_iff.mp first
      rw [Option.bind_some, ih unscaled fun c mem => all c (List.mem_cons_of_mem _ mem), scale]

end

/-! ### Reading a literal -/

/-- A sign is read before digits. -/
theorem read?_of_signed
    {body cs : List Char} {negative : Bool} (signed : Signed body negative cs)
    (unsigned : ∀ c ∈ body, c ≠ '+' ∧ c ≠ '-') (some_digit : ∃ c ∈ body, isDigit c) :
  read? cs = readDigits negative false zero body
  := by
  obtain ⟨c, mem, digit⟩ := some_digit
  have found : cs.any (fun c => (digit? 10 c).isSome) = true := by
    rw [List.any_eq_true]
    use c, signed.sublist.subset mem
    rw [digit?_of_isDigit digit]
    rfl
  cases signed with
  | plus => rw [read?, if_pos found]
  | minus => rw [read?, if_pos found]
  | bare =>
    rw [read?, if_pos found]
    · rintro rest rfl
      apply (unsigned '+' List.mem_cons_self).1 rfl
    · rintro rest rfl
      apply (unsigned '-' List.mem_cons_self).2 rfl

/-- Digits to the end are read as what they make of the number before them, if there is room for
it. -/
theorem readDigits_all
    {digits : List Char} (all : ∀ c ∈ digits, isDigit c) {negative pointed : Bool} {a : Nat}
    {acc : FixedDecimal} (start : acc.unscaled = withSign negative a) :
  readDigits negative pointed acc digits
    = ofParts? (withSign negative (ofDigitChars 10 digits a))
        (acc.scale + if pointed then digits.length else 0)
  := by
  have read : readDigits negative pointed acc (digits ++ []) = _ := readDigits_append start all []
  rw [List.append_nil] at read
  rw [read]
  apply Option.bind_fun_some

/-- Digits with a point among them or without one are read as all of them over those behind the
point. -/
theorem readDigits_pointed
    {whole fraction body : List Char} (digits : IsDigits (whole ++ fraction))
    (pointed : Pointed whole fraction body) (negative : Bool) :
  readDigits negative false zero body
    = ofParts? (withSign negative (digitsValue (whole ++ fraction))) fraction.length
  := by
  obtain ⟨-, all⟩ := digits
  rw [List.forall_mem_append] at all
  have start : zero.unscaled = withSign negative 0 := by cases negative <;> rfl
  rw [digitsValue_eq, Nat.ofDigitChars_append]
  cases pointed with
  | bare =>
    rw [readDigits_all all.1 start]
    rfl
  | point =>
    have point (next : FixedDecimal) : readDigits negative false next ('.' :: fraction)
        = readDigits negative true next fraction := rfl
    rw [readDigits_append start all.1]
    cases before : ofParts? (withSign negative (ofDigitChars 10 whole 0)) zero.scale with
    | none =>
      rw [ofParts?_eq_none_of_le before (le_ofDigitChars fraction _) (Nat.zero_le _)]
      simp [before]
    | some next =>
      obtain ⟨unscaled, scale⟩ := ofParts?_eq_some_iff.mp before
      have places : next.scale + fraction.length = fraction.length := by rw [scale]; apply Nat.zero_add
      simp only [Bool.false_eq_true, if_false, Nat.add_zero, before, Option.bind_some, point]
      rw [readDigits_all all.2 unscaled, if_pos rfl, places]

/-- A literal without an exponent is read as all its digits over its fraction digits, if they are few
enough. -/
theorem read?_of_spells {l : Literal} {cs : List Char} (spells : l.Spells cs)
    (plain : l.exponent = none) :
  read? cs = ofParts? l.toDecimal.unscaled l.fraction.length
  := by
  obtain @⟨body, mantissa, cs, digits, pointed, signed, raised⟩ := spells
  rw [plain] at raised
  cases raised
  have unsigned : ∀ c ∈ body, c ≠ '+' ∧ c ≠ '-' := by
    intro c mem
    constructor
    · apply pointed.ne_of_mem digits _ _ c mem <;> decide
    · apply pointed.ne_of_mem digits _ _ c mem <;> decide
  have some_digit : ∃ c ∈ body, isDigit c := by
    obtain ⟨c, mem⟩ := List.exists_mem_of_ne_nil _ digits.1
    exact ⟨c, pointed.sublist.subset mem, digits.2 c mem⟩
  rw [read?_of_signed signed unsigned some_digit]
  apply readDigits_pointed digits pointed

/-! ### Integers and decimals -/

/-- A decimal is accepted if its plain form has few enough digits. -/
theorem ofDecimal?_eq (d : Decimal) :
  ofDecimal? d = ofParts? d.literal.toDecimal.unscaled d.literal.fraction.length
  := read?_of_spells d.spells_plain d.exponent_literal

/-- An integer is accepted exactly when its decimal is: there is no room for the digits of an integer
of more than 128 bits. -/
theorem ofInt?_eq_ofDecimal? (n : Int) :
  ofInt? n = ofDecimal? (.ofInt n)
  := by
  have whole : ofDecimal? (.ofInt n) = ofParts? n 0 := by
    rw [ofDecimal?_eq, Decimal.toDecimal_literal, Decimal.length_fraction_literal]
    simp [Decimal.ofInt, Decimal.flat]
  rw [whole, ofInt?, Bounded.ofInt?]
  split
  · rfl
  · rename_i outside
    symm
    rw [Option.bind_none, ofParts?_eq_none_iff]
    rintro ⟨small, -⟩
    apply outside
    have low : IntKind.int128.lo = -2 ^ 127 := rfl
    have high : IntKind.int128.hi = 2 ^ 127 - 1 := rfl
    constructor <;> omega

end OlapClient.Number.FixedDecimal
