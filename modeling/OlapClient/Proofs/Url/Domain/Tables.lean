import Mathlib.Data.List.Forall2
import Mathlib.Data.Nat.Bitwise
import Mathlib.Tactic.Common
import OlapClient.Url.Domain.Composition
import OlapClient.Url.Domain.Mapping

/-!
# Checks of the tables of domain names

The tables are texts.  A closed property of a table is checked on the characters of its text, and
the sets of code points that such a check needs are numbers whose bits are the code points: a
character is looked for in a table of thousands by one shift.
-/

namespace OlapClient.Url.Domain

/-- A property of a table is a property of what is read from the characters of its text. -/
@[elab_as_elim]
theorem of_written
    {α : Type} {p : α → Prop} (table : α) (read : List Char → α) {s : String} {cs : List Char}
    (written : table = read s.toList) (chars : s = String.ofList cs) (h : p (read cs)) :
  p table
  := by
  rw [chars, String.toList_ofList] at written
  rwa [written]

/-- A property of a table that several texts write is a property of what is read from their
characters. -/
@[elab_as_elim]
theorem of_written_in_pieces
    {α : Type} {p : List α → Prop} (table : List α) (read : List Char → List α)
    {texts : List String} {pieces : List (List Char)}
    (written : table = texts.flatMap fun s => read s.toList)
    (chars : List.Forall₂ (· = String.ofList ·) texts pieces) (h : p (pieces.flatMap read)) :
  p table
  := by
  have same : (texts.flatMap fun s => read s.toList) = pieces.flatMap read := by
    clear written h
    induction chars with
    | nil => rfl
    | cons chars _ ih => rw [List.flatMap_cons, List.flatMap_cons, chars, String.toList_ofList, ih]
  rwa [written, same]

/-! ### Tables in text form -/

/-- The composites that a table in text form writes. -/
def compositesIn (cs : List Char) : List Composite :=
  readComposites ((words cs).map hexNumber)

/-- The shifts that a table in text form writes. -/
def shiftsIn (cs : List Char) : List Shift :=
  readShifts ((words cs).map hexNumber)

/-- The intervals that a table in text form writes. -/
def rangesIn (cs : List Char) : Ranges :=
  (words cs).map readRange

/-- The images that a table in text form writes. -/
def imagesIn (cs : List Char) : List (Nat × List Char) :=
  readImages 0 (words cs)

/-! ### Sets of code points as numbers -/

theorem toNat_ofNat_of_valid
    {n : Nat} (valid : n.isValidChar) :
  (Char.ofNat n).toNat = n
  := by
  rw [Char.ofNat, dif_pos valid]
  rfl

/-- The number with the bits that any of some numbers has. -/
def union : List Nat → Nat :=
  List.foldl (· ||| ·) 0

theorem testBit_foldl_or (ms : List Nat) (m n : Nat) :
  (ms.foldl (· ||| ·) m).testBit n ↔ m.testBit n ∨ ∃ k ∈ ms, k.testBit n
  := by
  induction ms generalizing m with
  | nil => simp
  | cons k ms ih =>
    rw [List.foldl_cons, ih, Nat.testBit_or, Bool.or_eq_true, or_assoc]
    simp

theorem testBit_union (ms : List Nat) (n : Nat) :
  (union ms).testBit n ↔ ∃ m ∈ ms, m.testBit n
  := by
  rw [union, testBit_foldl_or, Nat.zero_testBit]
  simp

/-- The number with the bits of some code points. -/
def codeBits (ns : List Nat) : Nat :=
  union (ns.map (1 <<< ·))

theorem testBit_codeBits (ns : List Nat) (n : Nat) :
  (codeBits ns).testBit n ↔ n ∈ ns
  := by
  rw [codeBits, testBit_union]
  simp [Nat.one_shiftLeft, Nat.testBit_two_pow]

/-- The number with `count` bits at a distance `step` of each other. -/
def strideBits (step : Nat) : Nat → Nat
  | 0 => 0
  | count + 1 => 1 ||| strideBits step count <<< step

theorem testBit_strideBits (step count n : Nat) :
  (strideBits step count).testBit n ↔ ∃ i < count, n = i * step
  := by
  induction count generalizing n with
  | zero => simp [strideBits]
  | succ count ih =>
    rw [strideBits, Nat.testBit_or, Nat.testBit_shiftLeft, Bool.or_eq_true, Bool.and_eq_true, ih]
    constructor
    · rintro (first | ⟨reached, i, small, later⟩)
      · refine ⟨0, Nat.succ_pos count, ?_⟩
        rw [Nat.zero_mul]
        exact Nat.testBit_one_eq_true_iff_self_eq_zero.mp first
      · refine ⟨i + 1, Nat.succ_lt_succ small, ?_⟩
        rw [Nat.succ_mul]
        have := of_decide_eq_true reached
        omega
    · rintro ⟨i, small, rfl⟩
      cases i with
      | zero => simp
      | succ i =>
        refine .inr ⟨?_, i, Nat.lt_of_succ_lt_succ small, ?_⟩
        · rw [Nat.succ_mul]
          simp
        · rw [Nat.succ_mul]
          omega

/-- The number with the bits of an interval. -/
def span (low high : Nat) : Nat :=
  (1 <<< (high + 1 - low) - 1) <<< low

theorem testBit_span (low high n : Nat) :
  (span low high).testBit n ↔ low ≤ n ∧ n ≤ high
  := by
  rw [span, Nat.testBit_shiftLeft, Nat.one_shiftLeft, Nat.testBit_two_pow_sub_one]
  simp only [ge_iff_le, Bool.and_eq_true, decide_eq_true_eq]
  omega

/-- The number with the bits of the code points in intervals. -/
def Ranges.bits (ranges : Ranges) : Nat :=
  union (ranges.map fun (low, high) => span low high)

theorem Ranges.testBit_bits (ranges : Ranges) (c : Char) :
  ranges.bits.testBit c.toNat = ranges.has c
  := by
  rw [Bool.eq_iff_iff, Ranges.bits, testBit_union]
  simp [Ranges.has, testBit_span]

end OlapClient.Url.Domain
