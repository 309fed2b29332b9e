import Mathlib.Algebra.BigOperators.Group.List.Lemmas
import Mathlib.Algebra.BigOperators.Ring.List
import Mathlib.Data.List.TakeWhile
import OlapClient.Proofs.Cube.Coordinates

/-!
# Counting the cells

The number of cells is the product of the lengths of the axes, multiplied up in their order.  The
products on the way grow up to the first axis without positions and are zero from there on, so the
count is refused exactly when the axes before that one span too many cells.
`cellCount_counts` says that the count is the product wherever there is room for the product, except
for cell sets without cells whose axes before the first empty one span too many; and that the order
of the axes plays no part, except for cell sets without cells whose other axes span too many.
-/

namespace OlapClient.Cube.CellSet

open OlapClient.Number

/-! ### Products on the way -/

/-- The lengths before the first that is zero. -/
def leading (lengths : List Nat) : List Nat :=
  lengths.takeWhile (· ≠ 0)

/-- The lengths that are not zero. -/
def occupied (lengths : List Nat) : List Nat :=
  lengths.filter (· ≠ 0)

theorem leading_cons_zero (lengths : List Nat) :
  leading (0 :: lengths) = []
  := rfl

theorem leading_cons_of_ne_zero {length : Nat} (some_position : length ≠ 0) (lengths : List Nat) :
  leading (length :: lengths) = length :: leading lengths
  := List.takeWhile_cons_of_pos (by simp [some_position])

theorem leading_eq_self {lengths : List Nat} (none_empty : lengths.prod ≠ 0) :
  leading lengths = lengths
  := by
  apply List.takeWhile_eq_self_iff.mpr
  intro length mem
  apply decide_eq_true
  rintro rfl
  apply none_empty
  apply List.prod_eq_zero mem

theorem prod_occupied_pos (lengths : List Nat) :
  0 < (occupied lengths).prod
  := by
  apply Nat.pos_of_ne_zero
  apply List.prod_ne_zero
  intro mem
  simpa using List.of_mem_filter mem

theorem leading_sublist_occupied (lengths : List Nat) :
  (leading lengths).Sublist (occupied lengths)
  := by
  have kept : (leading lengths).filter (· ≠ 0) = leading lengths := by
    apply List.filter_eq_self.mpr
    intro length mem
    apply List.mem_takeWhile_imp mem
  rw [← kept]
  apply List.Sublist.filter
  apply List.takeWhile_sublist

theorem prod_leading_dvd_prod_occupied (lengths : List Nat) :
  (leading lengths).prod ∣ (occupied lengths).prod
  := (leading_sublist_occupied lengths).prod_dvd_prod

theorem prod_leading_pos (lengths : List Nat) :
  0 < (leading lengths).prod
  := Nat.pos_of_dvd_of_pos (prod_leading_dvd_prod_occupied lengths) (prod_occupied_pos lengths)

theorem boundedProduct_zero (lengths : List Nat) :
  boundedProduct 0 lengths = some 0
  := by
  induction lengths with
  | nil => rfl
  | cons length lengths ih => rw [boundedProduct, Nat.zero_mul, if_pos (Nat.zero_le _), ih]

/-- Every product on the way is at most that of the lengths before the first zero, or zero. -/
theorem boundedProduct_eq {count : Nat} (room : count ≤ maxSize) (lengths : List Nat) :
  boundedProduct count lengths
    = if count * (leading lengths).prod ≤ maxSize then some (count * lengths.prod) else none
  := by
  induction lengths generalizing count with
  | nil =>
    rw [leading, List.takeWhile_nil, List.prod_nil, Nat.mul_one, if_pos room]
    rfl
  | cons length lengths ih =>
    by_cases empty : length = 0
    · rw [empty, boundedProduct, Nat.mul_zero, if_pos (Nat.zero_le _), boundedProduct_zero,
        leading_cons_zero, List.prod_nil, Nat.mul_one, if_pos room, List.prod_cons, Nat.zero_mul,
        Nat.mul_zero]
    · rw [boundedProduct, leading_cons_of_ne_zero empty, List.prod_cons, List.prod_cons,
        ← Nat.mul_assoc, ← Nat.mul_assoc]
      by_cases fits : count * length ≤ maxSize
      · rw [if_pos fits]
        apply ih fits
      · have crowded : ¬ count * length * (leading lengths).prod ≤ maxSize := by
          intro fits_all
          apply fits
          apply Nat.le_trans _ fits_all
          apply Nat.le_mul_of_pos_right _ (prod_leading_pos lengths)
        rw [if_neg fits, if_neg crowded]

/-! ### The count -/

/-- The refusal to count the cells of a cell set. -/
def countRefusal (s : CellSet) : Except Failure Nat :=
  .error (.badUsage (.cellCount s.axes.length))

/-- The product of the lengths of the axes, refused only where there is no room for it. -/
def exactCount (s : CellSet) : Except Failure Nat :=
  if s.lengths.prod ≤ maxSize then .ok s.lengths.prod else s.countRefusal

theorem cellCount_eq (s : CellSet) :
  s.cellCount
    = if (leading s.lengths).prod ≤ maxSize then .ok s.lengths.prod else s.countRefusal
  := by
  rw [cellCount, boundedProduct_eq (by decide), Nat.one_mul, Nat.one_mul]
  by_cases room : (leading s.lengths).prod ≤ maxSize
  · rw [if_pos room, if_pos room]
  · rw [if_neg room, if_neg room, countRefusal]

theorem cellCount_of_room {s : CellSet} (room : (leading s.lengths).prod ≤ maxSize) :
  s.cellCount = .ok s.lengths.prod
  := by
  rw [cellCount_eq, if_pos room]

/-- The count is the product, except where there are no cells and yet the axes before the first empty
one span too many. -/
theorem cellCount_eq_exactCount_iff (s : CellSet) :
  s.cellCount = s.exactCount ↔ (s.lengths.prod = 0 → (leading s.lengths).prod ≤ maxSize)
  := by
  rw [cellCount_eq, exactCount]
  by_cases none : s.lengths.prod = 0
  · rw [none, if_pos (Nat.zero_le _)]
    by_cases room : (leading s.lengths).prod ≤ maxSize
    · simp [room]
    · simp [room, countRefusal]
  · rw [leading_eq_self none]
    simp [none]

/-! ### The order of the axes -/

theorem prod_occupied_perm {lengths lengths' : List Nat} (perm : lengths.Perm lengths') :
  (occupied lengths).prod = (occupied lengths').prod
  := (perm.filter _).prod_eq

/-- The count is the product where the axes span too many cells in no order. -/
theorem cellCount_eq_exactCount
    {s : CellSet} (room : s.lengths.prod = 0 → (occupied s.lengths).prod ≤ maxSize) :
  s.cellCount = s.exactCount
  := by
  apply (cellCount_eq_exactCount_iff s).mpr
  intro none
  apply Nat.le_trans _ (room none)
  apply Nat.le_of_dvd (prod_occupied_pos _) (prod_leading_dvd_prod_occupied _)

theorem cellCount_perm
    {s t : CellSet} (perm : t.axes.Perm s.axes)
    (room : s.lengths.prod = 0 → (occupied s.lengths).prod ≤ maxSize) :
  t.cellCount = s.cellCount
  := by
  have lengths : t.lengths.Perm s.lengths := perm.map _
  have same : t.exactCount = s.exactCount := by
    rw [exactCount, exactCount, lengths.prod_eq, countRefusal, countRefusal, perm.length_eq]
  rw [cellCount_eq_exactCount room, ← same]
  apply cellCount_eq_exactCount
  rw [lengths.prod_eq, prod_occupied_perm lengths]
  apply room

/-- The cell set with its empty axes after all others. -/
def emptyLast (s : CellSet) : CellSet :=
  { s with axes := s.axes.filter (·.length ≠ 0) ++ s.axes.filter (·.length = 0) }

/-- The cell set with its empty axes before all others. -/
def emptyFirst (s : CellSet) : CellSet :=
  { s with axes := s.axes.filter (·.length = 0) ++ s.axes.filter (·.length ≠ 0) }

theorem axes_emptyLast_perm (s : CellSet) :
  s.emptyLast.axes.Perm s.axes
  := by
  have complement : (fun axis : Axis => decide (axis.length = 0))
      = fun axis => !decide (axis.length ≠ 0) := by
    funext axis
    simp
  rw [emptyLast, complement]
  apply List.filter_append_perm

theorem axes_emptyFirst_perm (s : CellSet) :
  s.emptyFirst.axes.Perm s.axes
  := List.perm_append_comm.trans s.axes_emptyLast_perm

theorem lengths_emptyLast (s : CellSet) :
  s.emptyLast.lengths = occupied s.lengths ++ List.replicate (s.lengths.count 0) 0
  := by
  rw [← List.filter_eq]
  simp [emptyLast, lengths, occupied, List.filter_map, Function.comp_def]

theorem lengths_emptyFirst (s : CellSet) :
  s.emptyFirst.lengths = List.replicate (s.lengths.count 0) 0 ++ occupied s.lengths
  := by
  rw [← List.filter_eq]
  simp [emptyFirst, lengths, occupied, List.filter_map, Function.comp_def]

theorem leading_emptyLast (s : CellSet) :
  leading s.emptyLast.lengths = occupied s.lengths
  := by
  have rest : leading (List.replicate (s.lengths.count 0) 0) = [] := by
    cases s.lengths.count 0 <;> rfl
  rw [lengths_emptyLast, leading, List.takeWhile_append_of_pos, ← leading, rest, List.append_nil]
  intro length mem
  apply List.of_mem_filter mem

theorem leading_emptyFirst {s : CellSet} (none : s.lengths.prod = 0) :
  leading s.emptyFirst.lengths = []
  := by
  have some_empty : 0 < s.lengths.count 0 :=
    List.count_pos_iff.mpr (List.prod_eq_zero_iff.mp none)
  obtain ⟨others, count⟩ := Nat.exists_eq_add_one.mpr some_empty
  rw [lengths_emptyFirst, count]
  rfl

/-- The order of the axes plays no part, except where there are no cells and yet the axes that are not
empty span too many: these can come first. -/
theorem cellCount_perm_iff (s : CellSet) :
  (∀ t : CellSet, t.axes.Perm s.axes → t.cellCount = s.cellCount)
    ↔ (s.lengths.prod = 0 → (occupied s.lengths).prod ≤ maxSize)
  := by
  constructor
  · intro same none
    by_contra crowded
    have first : s.emptyFirst.cellCount = .ok s.emptyFirst.lengths.prod := by
      apply cellCount_of_room
      rw [leading_emptyFirst none]
      decide
    have last : s.emptyLast.cellCount = s.emptyLast.countRefusal := by
      rw [cellCount_eq, leading_emptyLast, if_neg crowded]
    rw [same _ s.axes_emptyFirst_perm, ← same _ s.axes_emptyLast_perm, last] at first
    cases first
  · intro room t perm
    apply cellCount_perm perm room

/-- The count is the product of the lengths as long as the axes before the first empty one leave room
for it, and is refused otherwise.  So it is the product wherever there is room for the product, unless
there are no cells and the axes before the first empty one span too many; and it is the same in every
order of the axes, unless there are no cells and the axes that are not empty span too many. -/
theorem cellCount_counts (s : CellSet) :
  s.cellCount
      = (if (leading s.lengths).prod ≤ maxSize then .ok s.lengths.prod else s.countRefusal)
    ∧ (s.cellCount = s.exactCount ↔ (s.lengths.prod = 0 → (leading s.lengths).prod ≤ maxSize))
    ∧ ((∀ t : CellSet, t.axes.Perm s.axes → t.cellCount = s.cellCount)
      ↔ (s.lengths.prod = 0 → (occupied s.lengths).prod ≤ maxSize))
  := by
  constructor
  · apply cellCount_eq
  constructor
  · apply cellCount_eq_exactCount_iff
  · apply cellCount_perm_iff

/-- An axis of a number of positions without members. -/
def blankAxis (length : Nat) : Axis :=
  ⟨"Axis", List.replicate length ⟨[]⟩⟩

theorem length_blankAxis (length : Nat) :
  (blankAxis length).length = length
  := List.length_replicate

/-- Five axes of ten thousand positions, and an empty one behind them. -/
def emptyBehindFive : CellSet :=
  ⟨.empty, List.replicate 5 (blankAxis 10000) ++ [blankAxis 0], none, ∅⟩

/-- The cells of `emptyBehindFive` are none and are not counted. -/
theorem emptyBehindFive_uncounted :
  ¬ ∀ s : CellSet, s.cellCount = s.exactCount
  := by
  intro counts
  have lengths : emptyBehindFive.lengths = List.replicate 5 10000 ++ [0] := by
    rw [CellSet.lengths, emptyBehindFive, List.map_append, List.map_replicate, List.map_singleton,
      length_blankAxis, length_blankAxis]
  have room := (cellCount_eq_exactCount_iff emptyBehindFive).mp (counts emptyBehindFive)
  rw [lengths] at room
  apply absurd (room (by decide))
  decide

end OlapClient.Cube.CellSet
