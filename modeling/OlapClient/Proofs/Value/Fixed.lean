import Mathlib.Algebra.Field.Rat
import Mathlib.Tactic.Common
import OlapClient.Proofs.Number.Fixed
import OlapClient.Proofs.Value.Amount

/-!
# Values as decimals of a fixed size

The plain form of an exact number is the text of its value.  A getter of fixed decimals accepts a
value exactly when this text has at most 28 fraction digits and its digits without the point make an
integer of at most 96 bits (`fixedDecimals_exact`).  What it accepts it neither rounds nor rescales.
-/

namespace OlapClient

open OlapClient.Number

/-- A literal has few enough digits for a fixed decimal. -/
def Number.Literal.Fits (l : Literal) : Prop :=
  l.fraction.length ≤ 28 ∧ digitsValue l.digits < 2 ^ 96

theorem Number.Decimal.plain_ofInt (n : Int) :
  (Decimal.ofInt n).plain = decimalText n
  := by
  simp [Decimal.plain, Decimal.plainDigits, Decimal.signed, Decimal.ofInt, decimalText]

namespace Value

variable {v : Value} {d : Decimal}

/-- The text of an exact number is its plain form. -/
theorem text?_of_exactNumber? (number : v.exactNumber? = some d) :
  v.text? = some d.plain
  := by
  cases v <;> simp_all [exactNumber?, smallInteger?, text?, ← Decimal.plain_ofInt]

/-- Integers and decimals are accepted alike. -/
theorem decode_fixedDecimal (number : v.exactNumber? = some d) :
  v.decode .fixedDecimal = acceptNumber .fixedDecimal d (FixedDecimal.ofDecimal? d)
  := by
  have integer {n : Int} (holds : v.integer? = some n) (value : d = .ofInt n) :
      v.decode .fixedDecimal = acceptNumber .fixedDecimal d (FixedDecimal.ofDecimal? d) := by
    rw [value, ← FixedDecimal.ofInt?_eq_ofDecimal?]
    apply decodeNumber_of_integer? holds
  cases v with
  | byte n | short n | int n | long n | integer n =>
    injection number with number
    exact integer rfl number.symm
  | decimal d' =>
    injection number with number
    rw [number]
    rfl
  | null | boolean b | float x | double x | dateTime m | string s => cases number

/-- The getter of fixed decimals accepts an exact number if its text has few enough digits, and with
all its fraction digits.  Any other number is out of range. -/
theorem fixedDecimals_exact {v : Value} {q : Rat} (amount : v.amount? = some q) :
  ∃ (s : String) (l : Literal), v.text? = some s
    ∧ l.Spells s.toList ∧ l.exponent = none ∧ l.value = q
    ∧ (l.Fits → ∃ d, v.decode .fixedDecimal = .ok d
        ∧ d.toDecimal.toRat = q ∧ d.scale = l.fraction.length)
    ∧ (¬ l.Fits → ∃ shown,
        v.decode .fixedDecimal = .error (.badUsage (.outOfRange shown .fixedDecimal)))
  := by
  obtain ⟨d, number, rfl⟩ := exists_exactNumber? amount
  have value : d.literal.value = d.toRat := by
    rw [← Literal.toRat_toDecimal, Decimal.toDecimal_literal, Decimal.sameValue_flat]
  use d.plain, d.literal, text?_of_exactNumber? number, d.spells_plain, d.exponent_literal, value
  have fits : d.literal.Fits ↔ d.literal.toDecimal.unscaled.natAbs < 2 ^ 96
      ∧ d.literal.fraction.length ≤ 28 := by
    rw [Literal.toDecimal, FixedDecimal.natAbs_withSign, and_comm]
    rfl
  rw [decode_fixedDecimal number, FixedDecimal.ofDecimal?_eq, fits]
  cases accepted : FixedDecimal.ofParts? d.literal.toDecimal.unscaled d.literal.fraction.length with
  | none =>
    have large := FixedDecimal.ofParts?_eq_none_iff.mp accepted
    exact ⟨fun small => absurd small large, fun _ => ⟨_, rfl⟩⟩
  | some f =>
    obtain ⟨unscaled, scale⟩ := FixedDecimal.ofParts?_eq_some_iff.mp accepted
    have same : f.toDecimal = d.literal.toDecimal := by
      rw [FixedDecimal.toDecimal, unscaled, scale, Literal.toDecimal, Literal.scale,
        Decimal.exponent_literal, Option.getD_none, Int.sub_zero]
    constructor
    · intro _
      use f, rfl
      rw [same, Literal.toRat_toDecimal, value]
      exact ⟨rfl, scale⟩
    · intro large
      apply absurd _ large
      rw [← unscaled, ← scale]
      exact ⟨f.unscaled_lt, f.scale_le⟩

/-- The least decimal that has 28 fraction digits and is accepted. -/
theorem fixedDecimals_exact_least :
  (decimal ⟨-79228162514264337593543950335, 28⟩).amount?
      = some (-79228162514264337593543950335 / 10 ^ 28)
    ∧ ∃ (s : String) (l : Literal), (decimal ⟨-79228162514264337593543950335, 28⟩).text? = some s
      ∧ l.Spells s.toList ∧ l.exponent = none
      ∧ l.value = -79228162514264337593543950335 / 10 ^ 28
      ∧ (l.Fits → ∃ d, (decimal ⟨-79228162514264337593543950335, 28⟩).decode .fixedDecimal = .ok d
          ∧ d.toDecimal.toRat = -79228162514264337593543950335 / 10 ^ 28
          ∧ d.scale = l.fraction.length)
      ∧ (¬ l.Fits → ∃ shown, (decimal ⟨-79228162514264337593543950335, 28⟩).decode .fixedDecimal
          = .error (.badUsage (.outOfRange shown .fixedDecimal)))
  := by
  have amount : (decimal ⟨-79228162514264337593543950335, 28⟩).amount?
      = some (-79228162514264337593543950335 / 10 ^ 28) := by
    decide +kernel
  exact ⟨amount, fixedDecimals_exact amount⟩

end Value

end OlapClient
