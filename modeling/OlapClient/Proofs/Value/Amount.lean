import Mathlib.Tactic.Common
import OlapClient.Proofs.Number.Scale
import OlapClient.Value.Decoding

/-!
# Values as exact numbers

Integers of any variant and decimals are exact numbers, and `Value.amount?` is the number of such a
value.  A getter of numbers has one rule for integers and another one for decimals.  Where both
rules accept exactly the numbers that the target has, so does the getter (`decodeNumber_exact`).
This is the case for the getters of integers: `integers_exact` says that an integer is read from a
value exactly when it is the number of the value and in the range of the target.
-/

namespace OlapClient.Value

open OlapClient.Number

/-- The number of a value, if the value is of a variant of exact numbers. -/
def amount? : Value → Option Rat
  | byte n => some n.val
  | short n => some n.val
  | int n => some n.val
  | long n => some n.val
  | integer n => some n
  | decimal d => some d.toRat
  | _ => none

/-- A refusal by a getter of numbers is a misuse: the value is no number at all, or its number is
none of the target. -/
def Refusal (v : Value) (t : Target) (failure : Failure) : Prop :=
  failure = .badUsage (.wrongKind v.kindName t) ∧ v.amount? = none
    ∨ ∃ shown q, failure = .badUsage (.outOfRange shown t) ∧ v.amount? = some q

theorem amount?_eq_some_iff {v : Value} {q : Rat} :
  v.amount? = some q
    ↔ (∃ n : Int, v.integer? = some n ∧ q = n) ∨ ∃ d, v = .decimal d ∧ q = d.toRat
  := by
  cases v <;> simp [amount?, integer?, smallInteger?, eq_comm]

/-- The number of a value is that of a decimal. -/
theorem exists_exactNumber? {v : Value} {q : Rat} (amount : v.amount? = some q) :
  ∃ d, v.exactNumber? = some d ∧ d.toRat = q
  := by
  cases v <;> simp_all [amount?, exactNumber?, smallInteger?]

/-! ### Getters of numbers -/

section

variable {α : Type} {v : Value} {t : Target} {ofInt? : Int → Option α}
  {ofDecimal? : Decimal → Option α}

theorem acceptNumber_eq_ok_iff {number : Decimal} {accepted : Option α} {a : α} :
  acceptNumber t number accepted = .ok a ↔ accepted = some a
  := by
  cases accepted <;> simp [acceptNumber]

theorem outOfRange_of_acceptNumber {number : Decimal} {accepted : Option α} {failure : Failure}
    (refused : acceptNumber t number accepted = .error failure) :
  failure = .badUsage (.outOfRange number.brief t)
  := by
  cases accepted with
  | none =>
    injection refused with same
    exact same.symm
  | some a => cases refused

theorem decodeNumber_of_integer? {n : Int} (holds : v.integer? = some n) :
  v.decodeNumber t ofInt? ofDecimal? = acceptNumber t (.ofInt n) (ofInt? n)
  := by
  cases v <;> simp_all [decodeNumber, integer?, smallInteger?]

/-- A getter of numbers reads an integer by its rule for integers and a decimal by its rule for
decimals. -/
theorem decodeNumber_eq_ok_iff {a : α} :
  v.decodeNumber t ofInt? ofDecimal? = .ok a
    ↔ (∃ n, v.integer? = some n ∧ ofInt? n = some a) ∨ ∃ d, v = .decimal d ∧ ofDecimal? d = some a
  := by
  cases v <;>
    simp [decodeNumber, integer?, smallInteger?, wrongKind, acceptNumber_eq_ok_iff]

theorem refusal_of_decodeNumber {failure : Failure}
    (refused : v.decodeNumber t ofInt? ofDecimal? = .error failure) :
  v.Refusal t failure
  := by
  cases v with
  | byte n | short n | int n | long n | integer n | decimal d =>
    exact .inr ⟨_, _, outOfRange_of_acceptNumber refused, rfl⟩
  | null | boolean b | float x | double x | dateTime m | string s =>
    injection refused with same
    exact .inl ⟨same.symm, rfl⟩

/-- A getter whose rules accept exactly the numbers of the target reads exactly these. -/
theorem decodeNumber_exact {number : α → Rat}
    (integers : ∀ n a, ofInt? n = some a ↔ number a = n)
    (decimals : ∀ d a, ofDecimal? d = some a ↔ number a = d.toRat) {a : α} :
  v.decodeNumber t ofInt? ofDecimal? = .ok a ↔ v.amount? = some (number a)
  := by
  rw [decodeNumber_eq_ok_iff, amount?_eq_some_iff]
  simp only [integers, decimals]

end

/-! ### Getters of integers -/

variable {v : Value}

theorem decode_bounded_eq_ok_iff {t : IntegerTarget} {b : Bounded t.kind} :
  v.decode (.bounded t) = .ok b ↔ v.amount? = some (b.val : Rat)
  := by
  have integers (n : Int) (b : Bounded t.kind) :
      Bounded.ofInt? t.kind n = some b ↔ (b.val : Rat) = n := by
    rw [Bounded.ofInt?_eq_some_iff, Int.cast_inj]
  apply decodeNumber_exact integers
  intro d b
  rw [Option.bind_eq_some_iff]
  simp only [Decimal.toInt?_eq_some_iff, Bounded.ofInt?_eq_some_iff]
  constructor
  · rintro ⟨n, number, rfl⟩
    exact number.symm
  · intro number
    exact ⟨b.val, number.symm, rfl⟩

theorem decode_whole_eq_ok_iff {n : Int} :
  v.decode .whole = .ok n ↔ v.amount? = some (n : Rat)
  := by
  have integers (m n : Int) : some m = some n ↔ (n : Rat) = m := by
    rw [Option.some.injEq, Int.cast_inj, eq_comm]
  apply decodeNumber_exact integers
  intro d n
  rw [Decimal.toInt?_eq_some_iff, eq_comm]

/-- A getter of integers reads exactly the number of a value, if it is an integer in the range of
the target, and refuses every other value as a misuse. -/
theorem integers_exact (v : Value) :
  (∀ (t : IntegerTarget) (n : Int),
      (∃ b, v.decode (.bounded t) = .ok b ∧ b.val = n) ↔ v.amount? = some (n : Rat) ∧ t.kind.Holds n)
    ∧ (∀ n : Int, v.decode .whole = .ok n ↔ v.amount? = some (n : Rat))
    ∧ (∀ (t : IntegerTarget) failure, v.decode (.bounded t) = .error failure →
        v.Refusal (.bounded t) failure)
    ∧ ∀ failure, v.decode .whole = .error failure → v.Refusal .whole failure
  := by
  split_ands
  · intro t n
    constructor
    · rintro ⟨b, read, rfl⟩
      exact ⟨decode_bounded_eq_ok_iff.mp read, b.holds⟩
    · rintro ⟨number, holds⟩
      exact ⟨⟨n, holds⟩, decode_bounded_eq_ok_iff.mpr number, rfl⟩
  · intro n
    apply decode_whole_eq_ok_iff
  · intro t failure refused
    apply refusal_of_decodeNumber refused
  · intro failure refused
    apply refusal_of_decodeNumber refused

end OlapClient.Value
