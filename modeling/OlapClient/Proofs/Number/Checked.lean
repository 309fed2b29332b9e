import Mathlib.Tactic.Common
import OlapClient.Number.Bounded

/-!
# Arithmetic that a format may not have room for

The sum, the difference or the product of two integers of a format need not be one of the format.
`IntKind.checked` and `checkedSize` are the results that there is room for, and nothing in place of
the others; `IntKind.saturated` is the integer of the format that is nearest to the result.
-/

namespace OlapClient.Number

/-- The result of an operation on integers of a format; nothing where the format does not have
it. -/
def IntKind.checked (k : IntKind) (n : Int) : Option Int :=
  if k.Holds n then some n else none

/-- The integer of a format that is nearest to the result of an operation. -/
def IntKind.saturated (k : IntKind) (n : Int) : Int :=
  max k.lo (min k.hi n)

/-- The result of an operation on sizes; nothing where it is beyond the greatest size. -/
def checkedSize (n : Nat) : Option Nat :=
  if n ≤ maxSize then some n else none

theorem IntKind.checked_of_holds {k : IntKind} {n : Int} (h : k.Holds n) :
  k.checked n = some n
  := if_pos h

theorem checkedSize_of_le {n : Nat} (h : n ≤ maxSize) :
  checkedSize n = some n
  := if_pos h

/-- The signed 64-bit integers. -/
theorem IntKind.holds_int64_iff {n : Int} :
  IntKind.int64.Holds n ↔ -9223372036854775808 ≤ n ∧ n ≤ 9223372036854775807
  := Iff.rfl

/-- The signed 64-bit integer that is nearest to an integer. -/
theorem IntKind.saturated_int64 (n : Int) :
  IntKind.int64.saturated n = max (-9223372036854775808) (min 9223372036854775807 n)
  := rfl

end OlapClient.Number
