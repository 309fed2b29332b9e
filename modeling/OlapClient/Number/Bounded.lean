import OlapClient.Number.Power

/-!
# Integers of a bounded width

An `IntKind` is a two's complement integer format, and `Bounded k` holds the integers of that
format.  `Bounded.ofInt?` admits an integer into a format exactly when it lies in the
format's range.
-/

namespace OlapClient.Number

/-- A fixed-width integer format: signed or not, and its number of bits. -/
structure IntKind where
  signed : Bool
  bits : Nat
  deriving DecidableEq, Repr

namespace IntKind

/-- The least integer of a format. -/
def lo (k : IntKind) : Int :=
  if k.signed then -(2 ^ (k.bits - 1)) else 0

/-- The greatest integer of a format. -/
def hi (k : IntKind) : Int :=
  if k.signed then 2 ^ (k.bits - 1) - 1 else 2 ^ k.bits - 1

/-- An integer lies in the range of a format. -/
def Holds (k : IntKind) (n : Int) : Prop :=
  k.lo ≤ n ∧ n ≤ k.hi

instance (k : IntKind) (n : Int) : Decidable (k.Holds n) :=
  inferInstanceAs (Decidable (_ ∧ _))

/-- Signed 8-bit integers. -/
def int8 : IntKind := ⟨true, 8⟩

/-- Signed 16-bit integers. -/
def int16 : IntKind := ⟨true, 16⟩

/-- Signed 32-bit integers. -/
def int32 : IntKind := ⟨true, 32⟩

/-- Signed 64-bit integers. -/
def int64 : IntKind := ⟨true, 64⟩

/-- Signed 128-bit integers. -/
def int128 : IntKind := ⟨true, 128⟩

/-- Unsigned 8-bit integers. -/
def nat8 : IntKind := ⟨false, 8⟩

/-- Unsigned 16-bit integers. -/
def nat16 : IntKind := ⟨false, 16⟩

/-- Unsigned 32-bit integers. -/
def nat32 : IntKind := ⟨false, 32⟩

/-- Unsigned 64-bit integers. -/
def nat64 : IntKind := ⟨false, 64⟩

end IntKind

/-- The integers of the format `k`. -/
structure Bounded (k : IntKind) where
  val : Int
  holds : k.Holds val
  deriving DecidableEq, Repr

namespace Bounded

/-- An integer as a member of the format `k`, if it lies in the range of `k`. -/
def ofInt? (k : IntKind) (n : Int) : Option (Bounded k) :=
  if h : k.Holds n then some ⟨n, h⟩ else none

theorem ext {k : IntKind} {a b : Bounded k} (h : a.val = b.val) :
  a = b
  := by
  cases a
  cases b
  cases h
  rfl

/-- Admission keeps the integer and happens exactly within the range. -/
theorem ofInt?_eq_some_iff {k : IntKind} {n : Int} {b : Bounded k} :
  ofInt? k n = some b ↔ b.val = n
  := by
  unfold ofInt?
  split
  · rename_i h
    simp only [Option.some.injEq]
    constructor
    · rintro rfl
      rfl
    · rintro rfl
      rfl
  · rename_i h
    simp only [reduceCtorEq, false_iff]
    rintro rfl
    exact h b.holds

theorem ofInt?_val {k : IntKind} (b : Bounded k) :
  ofInt? k b.val = some b
  := ofInt?_eq_some_iff.2 rfl

end Bounded

/-- The greatest size of a stored collection and the greatest count of owners. -/
def maxSize : Nat := 2 ^ 64 - 1

end OlapClient.Number
