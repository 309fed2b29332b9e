import Mathlib.Tactic.Common
import OlapClient.Proofs.Number.Binary
import OlapClient.Proofs.Value.Amount

/-!
# Values as floating point numbers

A getter of doubles rounds exact numbers to the nearest finite datum, and to an even one of two that
are equally near.  A number beyond the finite data becomes infinite: the getter does not refuse it as
out of range.  `doubles_finite_iff` says where the finite data end, halfway between the greatest of
them and the next power of two.
-/

namespace OlapClient

open OlapClient.Number

theorem Number.Binary.limit_double :
  limit .double = 2 ^ 1024 - 2 ^ 970
  := by
  decide +kernel

namespace Value

variable {v : Value} {q : Rat}

/-- A getter of doubles reads a value as a finite datum, or refuses it as out of range. -/
def FiniteOrRefused (v : Value) : Prop :=
  (∃ x r, v.decode .double = .ok x ∧ x.HasValue r)
    ∨ ∃ shown, v.decode .double = .error (.badUsage (.outOfRange shown .double))

/-- Integers and decimals are rounded alike, except integers of 64 bits, which are refused. -/
theorem decode_double (amount : v.amount? = some q) (convertible : ∀ n, v ≠ .long n) :
  v.decode .double = .ok (Binary.ofRat .double q)
  := by
  cases v with
  | long n => exact absurd rfl (convertible n)
  | byte n | short n | int n | integer n | decimal d =>
    injection amount with amount
    rw [← amount]
    rfl
  | null | boolean b | float x | double x | dateTime m | string s => cases amount

/-- A number that is beyond the finite data becomes infinite and is not refused. -/
theorem decode_double_of_le
    (amount : v.amount? = some q) (convertible : ∀ n, v ≠ .long n)
    (large : 2 ^ 1024 - 2 ^ 970 ≤ |q|) :
  v.decode .double = .ok (.infinite (decide (q < 0)))
  := by
  rw [← Binary.limit_double] at large
  rw [decode_double amount convertible, Binary.ofRat_of_limit_le BinaryFormat.regular_double large]

theorem not_finiteOrRefused_of_infinite {negative : Bool}
    (read : v.decode .double = .ok (.infinite negative)) :
  ¬ v.FiniteOrRefused
  := by
  rintro (⟨x, r, read', value⟩ | ⟨shown, refused⟩)
  · rw [read] at read'
    injection read' with infinite
    rw [← infinite] at value
    cases value
  · rw [read] at refused
    cases refused

/-- A getter of doubles reads a number as a finite datum or refuses it exactly if the number is not
beyond the finite data.  It then reads it as the nearest datum, and never refuses it. -/
theorem doubles_finite_iff {v : Value} {q : Rat}
    (amount : v.amount? = some q) (convertible : ∀ n, v ≠ .long n) :
  (v.FiniteOrRefused ↔ |q| < 2 ^ 1024 - 2 ^ 970)
    ∧ (|q| < 2 ^ 1024 - 2 ^ 970 → ∃ x, v.decode .double = .ok x ∧ x.Nearest q)
    ∧ (2 ^ 1024 - 2 ^ 970 ≤ |q| → v.decode .double = .ok (.infinite (decide (q < 0))))
  := by
  have nearest (small : |q| < 2 ^ 1024 - 2 ^ 970) :
      ∃ x, v.decode .double = .ok x ∧ x.Nearest q := by
    rw [← Binary.limit_double] at small
    exact ⟨_, decode_double amount convertible,
      Binary.nearest_ofRat BinaryFormat.regular_double small⟩
  have infinite := decode_double_of_le amount convertible
  refine ⟨⟨fun finite => ?_, fun small => ?_⟩, nearest, infinite⟩
  · by_contra large
    exact not_finiteOrRefused_of_infinite (infinite (le_of_not_gt large)) finite
  · obtain ⟨x, read, r, value, -⟩ := nearest small
    exact .inl ⟨x, r, read, value⟩

/-- The decimal of seventeen digits that is nearest to the least finite datum. -/
theorem doubles_finite_iff_least :
  (decimal ⟨-17976931348623157, -292⟩).amount? = some (-17976931348623157 * 10 ^ 292)
    ∧ (∀ n, decimal ⟨-17976931348623157, -292⟩ ≠ .long n)
    ∧ (decimal ⟨-17976931348623157, -292⟩).FiniteOrRefused
  := by
  have amount : (decimal ⟨-17976931348623157, -292⟩).amount?
      = some (-17976931348623157 * 10 ^ 292) := by
    decide +kernel
  have convertible (n : Bounded .int64) : decimal ⟨-17976931348623157, -292⟩ ≠ .long n :=
    Value.noConfusion
  refine ⟨amount, convertible, (doubles_finite_iff amount convertible).1.mpr ?_⟩
  decide +kernel

/-- The power of ten after the greatest one that is finite is neither finite nor refused, be it an
integer or a decimal. -/
theorem power_of_ten_infinite :
  ¬ (integer (10 ^ 309)).FiniteOrRefused ∧ ¬ (decimal ⟨1, -309⟩).FiniteOrRefused
  := by
  have integers (n : Int) (large : 2 ^ 1024 - 2 ^ 970 ≤ |(n : Rat)|) :
      ¬ (integer n).FiniteOrRefused :=
    not_finiteOrRefused_of_infinite (decode_double_of_le rfl (fun _ => Value.noConfusion) large)
  have decimals (d : Decimal) (large : 2 ^ 1024 - 2 ^ 970 ≤ |d.toRat|) :
      ¬ (decimal d).FiniteOrRefused :=
    not_finiteOrRefused_of_infinite (decode_double_of_le rfl (fun _ => Value.noConfusion) large)
  constructor
  · apply integers
    decide +kernel
  · apply decimals
    decide +kernel

end Value

end OlapClient
