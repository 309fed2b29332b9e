import Mathlib.Algebra.BigOperators.Fin
import Mathlib.Tactic.Common
import OlapClient.Cube.CellSet
import OlapClient.Proofs.Number.Checked

/-!
# Cell numbers and coordinates

The cells of a cell set are numbered along its axes with the first axis varying fastest, so a
coordinate counts as often as the axes before its own have positions between them.  `weighed` is
that sum.  `cells_numbered` says that numbers and coordinates name the same cells, one for one, that
every other number and every other list of coordinates is refused, and that no number on the way is
beyond the greatest size: as long as the cells can be counted, so can the cells of the axes gone
through, and the number that is made up is below their count.
-/

namespace OlapClient.Cube

open OlapClient.Number

/-! ### Numbers along axes of given lengths -/

/-- The sum of coordinates, each as often as the axes before its own have positions together. -/
def weighed (lengths coordinates : List Nat) : Nat :=
  ∑ i : Fin coordinates.length, coordinates[i] * (lengths.take i).prod

@[simp]
theorem weighed_nil (lengths : List Nat) :
  weighed lengths [] = 0
  := rfl

@[simp]
theorem weighed_cons (length coordinate : Nat) (lengths coordinates : List Nat) :
  weighed (length :: lengths) (coordinate :: coordinates)
    = coordinate + length * weighed lengths coordinates
  := by
  simp only [weighed, List.length_cons, Fin.sum_univ_succ, Finset.mul_sum]
  congr 1
  · simp
  · apply Finset.sum_congr rfl
    intro i _
    simp [Nat.mul_left_comm]

/-- Coordinates within the axes make up a number below the product of the lengths. -/
theorem weighed_lt {lengths coordinates : List Nat} (h : List.Forall₂ (· < ·) coordinates lengths) :
  weighed lengths coordinates < lengths.prod
  := by
  induction h with
  | nil => simp
  | @cons coordinate length coordinates lengths below _ ih =>
    have room : length * (weighed lengths coordinates + 1) ≤ length * lengths.prod :=
      Nat.mul_le_mul_left length ih
    rw [weighed_cons, List.prod_cons]
    rw [Nat.mul_succ] at room
    omega

namespace CellSet

theorem coordinatesFrom_weighed
    {lengths coordinates : List Nat} (h : List.Forall₂ (· < ·) coordinates lengths) :
  coordinatesFrom (weighed lengths coordinates) lengths = coordinates
  := by
  induction h with
  | nil => rfl
  | @cons coordinate length coordinates lengths below _ ih =>
    have positive : 0 < length := Nat.zero_lt_of_lt below
    rw [weighed_cons, coordinatesFrom, Nat.add_mul_mod_self_left, Nat.mod_eq_of_lt below,
      Nat.add_mul_div_left _ _ positive, Nat.div_eq_of_lt below, Nat.zero_add, ih]

/-- A number below the product of the lengths has its coordinates within the axes. -/
theorem coordinatesFrom_lt {lengths : List Nat} {ordinal : Nat} (h : ordinal < lengths.prod) :
  List.Forall₂ (· < ·) (coordinatesFrom ordinal lengths) lengths
  := by
  induction lengths generalizing ordinal with
  | nil => apply List.Forall₂.nil
  | cons length lengths ih =>
    rw [List.prod_cons] at h
    have positive : 0 < length := Nat.pos_of_mul_pos_right (Nat.zero_lt_of_lt h)
    rw [coordinatesFrom, List.forall₂_cons]
    constructor
    · apply Nat.mod_lt _ positive
    · apply ih
      apply Nat.div_lt_of_lt_mul h

theorem weighed_coordinatesFrom {lengths : List Nat} {ordinal : Nat} (h : ordinal < lengths.prod) :
  weighed lengths (coordinatesFrom ordinal lengths) = ordinal
  := by
  induction lengths generalizing ordinal with
  | nil =>
    rw [List.prod_nil] at h
    rw [coordinatesFrom, weighed_nil]
    omega
  | cons length lengths ih =>
    rw [List.prod_cons] at h
    rw [coordinatesFrom, weighed_cons, ih (Nat.div_lt_of_lt_mul h), Nat.mod_add_div]

/-! ### Counting the cells -/

theorem boundedProduct_cons_eq_some_iff {count length total : Nat} {lengths : List Nat} :
  boundedProduct count (length :: lengths) = some total
    ↔ count * length ≤ maxSize ∧ boundedProduct (count * length) lengths = some total
  := by
  rw [boundedProduct]
  split <;> simp [*]

/-- A product that is multiplied up is the product. -/
theorem eq_prod_of_boundedProduct
    {count total : Nat} {lengths : List Nat} (h : boundedProduct count lengths = some total) :
  total = count * lengths.prod
  := by
  induction lengths generalizing count with
  | nil =>
    rw [boundedProduct, Option.some.injEq] at h
    rw [List.prod_nil, Nat.mul_one, h]
  | cons length lengths ih =>
    rw [ih (boundedProduct_cons_eq_some_iff.mp h).2, List.prod_cons, Nat.mul_assoc]

theorem boundedProduct_of_cellCount {s : CellSet} {count : Nat} (h : s.cellCount = .ok count) :
  boundedProduct 1 s.lengths = some count
  := by
  rw [cellCount] at h
  split at h
  · cases h
    assumption
  · cases h

theorem eq_prod_of_cellCount {s : CellSet} {count : Nat} (h : s.cellCount = .ok count) :
  count = s.lengths.prod
  := by
  rw [eq_prod_of_boundedProduct (boundedProduct_of_cellCount h), Nat.one_mul]

/-! ### The number of coordinates -/

theorem ordinalFrom_of_forall₂
    {axes : List Axis} {coordinates : List Nat}
    (h : List.Forall₂ (· < ·) coordinates (axes.map Axis.length)) (ordinal stride : Nat) :
  ordinalFrom ordinal stride (axes.zip coordinates)
    = .ok (ordinal + stride * weighed (axes.map Axis.length) coordinates)
  := by
  induction axes generalizing coordinates ordinal stride with
  | nil =>
    rw [List.map_nil, List.forall₂_nil_right_iff] at h
    rw [h]
    rfl
  | cons axis axes ih =>
    cases h with
    | @cons coordinate _ coordinates _ below rest =>
      rw [List.zip_cons_cons, ordinalFrom, if_pos below, ih rest, List.map_cons, weighed_cons,
        Nat.mul_add, Nat.mul_comm coordinate stride, Nat.add_assoc, Nat.mul_assoc]

/-- Of as many coordinates as there are axes, one that its axis does not have is refused. -/
theorem ordinalFrom_of_not_forall₂
    {axes : List Axis} {coordinates : List Nat} (as_many : coordinates.length = axes.length)
    (h : ¬ List.Forall₂ (· < ·) coordinates (axes.map Axis.length)) (ordinal stride : Nat) :
  ∃ misuse, ordinalFrom ordinal stride (axes.zip coordinates) = .error (.badUsage misuse)
  := by
  induction axes generalizing coordinates ordinal stride with
  | nil =>
    rw [List.eq_nil_of_length_eq_zero as_many] at h
    apply absurd List.Forall₂.nil h
  | cons axis axes ih =>
    cases coordinates with
    | nil => cases as_many
    | cons coordinate coordinates =>
      rw [List.zip_cons_cons, ordinalFrom]
      by_cases below : coordinate < axis.length
      · rw [if_pos below]
        apply ih (Nat.succ.inj as_many)
        intro rest
        apply h (List.Forall₂.cons below rest)
      · rw [if_neg below]
        use .coordinate coordinate axis.name axis.length

/-! ### Arithmetic of sizes -/

/-- `ordinalFrom` in the arithmetic of sizes: nothing where a sum or a product on the way is beyond
the greatest size. -/
def checkedOrdinalFrom (ordinal stride : Nat) : List (Axis × Nat) → Option (Except Failure Nat)
  | [] => some (.ok ordinal)
  | (axis, coordinate) :: rest =>
    if coordinate < axis.length then do
      let offset ← checkedSize (coordinate * stride)
      let ordinal ← checkedSize (ordinal + offset)
      let stride ← checkedSize (stride * axis.length)
      checkedOrdinalFrom ordinal stride rest
    else some (.error (.badUsage (.coordinate coordinate axis.name axis.length)))

/-- `ordinalOf` in the arithmetic of sizes. -/
def checkedOrdinalOf (s : CellSet) (coordinates : List Nat) : Option (Except Failure Nat) :=
  if coordinates.length = s.axes.length then
    match s.cellCount with
    | .ok _ => checkedOrdinalFrom 0 1 (s.axes.zip coordinates)
    | .error failure => some (.error failure)
  else some (.error (.badUsage (.coordinateCount s.axes.length coordinates.length)))

/-- `coordinatesFrom` with divisions that a length of zero does not admit. -/
def checkedCoordinatesFrom (ordinal : Nat) : List Nat → Option (List Nat)
  | [] => some []
  | length :: rest =>
    if length = 0 then none
    else (checkedCoordinatesFrom (ordinal / length) rest).map (ordinal % length :: ·)

/-- `coordinatesOf` with divisions that a length of zero does not admit. -/
def checkedCoordinatesOf (s : CellSet) (ordinal : Nat) : Option (Except Failure (List Nat)) :=
  match s.checkOrdinal ordinal with
  | .ok () => (checkedCoordinatesFrom ordinal s.lengths).map .ok
  | .error failure => some (.error failure)

/-- Along axes whose cells can be counted, every sum and every product is a size: what is made up
of the axes gone through stays below the number of their cells. -/
theorem checkedOrdinalFrom_eq
    {axes : List Axis} {coordinates : List Nat} {ordinal stride total : Nat}
    (below : ordinal < stride)
    (counts : boundedProduct stride (axes.map Axis.length) = some total) :
  checkedOrdinalFrom ordinal stride (axes.zip coordinates)
    = some (ordinalFrom ordinal stride (axes.zip coordinates))
  := by
  induction axes generalizing coordinates ordinal stride with
  | nil => rfl
  | cons axis axes ih =>
    cases coordinates with
    | nil => rfl
    | cons coordinate coordinates =>
      obtain ⟨room, counts⟩ := boundedProduct_cons_eq_some_iff.mp counts
      rw [List.zip_cons_cons, checkedOrdinalFrom, ordinalFrom]
      by_cases within : coordinate < axis.length
      · have next : ordinal + coordinate * stride < stride * axis.length := by
          calc ordinal + coordinate * stride
            _ < stride + coordinate * stride := Nat.add_lt_add_right below _
            _ = (coordinate + 1) * stride := by rw [Nat.succ_mul, Nat.add_comm]
            _ ≤ axis.length * stride := Nat.mul_le_mul_right stride within
            _ = stride * axis.length := Nat.mul_comm _ _
        rw [if_pos within, if_pos within, checkedSize_of_le (by omega), Option.bind_eq_bind,
          Option.bind_some, checkedSize_of_le (by omega), checkedSize_of_le room]
        apply ih next counts
      · rw [if_neg within, if_neg within]

theorem checkedCoordinatesFrom_eq
    {lengths : List Nat} (positive : 0 < lengths.prod) (ordinal : Nat) :
  checkedCoordinatesFrom ordinal lengths = some (coordinatesFrom ordinal lengths)
  := by
  induction lengths generalizing ordinal with
  | nil => rfl
  | cons length lengths ih =>
    rw [List.prod_cons] at positive
    have some_position : length ≠ 0 := by
      rintro rfl
      simp at positive
    rw [checkedCoordinatesFrom, if_neg some_position,
      ih (Nat.pos_of_mul_pos_left positive), Option.map_some, coordinatesFrom]

/-! ### Cells by number and by coordinates -/

variable {s : CellSet} {count : Nat}

/-- There is one coordinate for each axis, and the axis has that position. -/
def Reaches (s : CellSet) (coordinates : List Nat) : Prop :=
  List.Forall₂ (· < ·) coordinates s.lengths

theorem ordinalOf_of_reaches
    (counts : s.cellCount = .ok count) {coordinates : List Nat} (h : s.Reaches coordinates) :
  s.ordinalOf coordinates = .ok (weighed s.lengths coordinates)
  := by
  have as_many : coordinates.length = s.axes.length := by
    rw [h.length_eq, lengths, List.length_map]
  have number := ordinalFrom_of_forall₂ h 0 1
  rw [Nat.zero_add, Nat.one_mul] at number
  rw [ordinalOf, if_pos as_many, counts]
  apply number

theorem ordinalOf_of_not_reaches
    (counts : s.cellCount = .ok count) {coordinates : List Nat} (h : ¬ s.Reaches coordinates) :
  ∃ misuse, s.ordinalOf coordinates = .error (.badUsage misuse)
  := by
  rw [ordinalOf]
  by_cases as_many : coordinates.length = s.axes.length
  · rw [if_pos as_many, counts]
    apply ordinalFrom_of_not_forall₂ as_many h
  · rw [if_neg as_many]
    use .coordinateCount s.axes.length coordinates.length

theorem checkOrdinal_of_lt
    (counts : s.cellCount = .ok count) {ordinal : Nat} (below : ordinal < count) :
  s.checkOrdinal ordinal = .ok ()
  := by
  rw [checkOrdinal, counts]
  apply if_pos below

theorem checkOrdinal_of_le
    (counts : s.cellCount = .ok count) {ordinal : Nat} (beyond : count ≤ ordinal) :
  s.checkOrdinal ordinal = .error (.badUsage (.cellOrdinal ordinal count))
  := by
  rw [checkOrdinal, counts]
  apply if_neg (Nat.not_lt_of_le beyond)

theorem checkOrdinal_of_error
    {failure : Failure} (uncounted : s.cellCount = .error failure) (ordinal : Nat) :
  s.checkOrdinal ordinal = .error failure
  := by
  rw [checkOrdinal, uncounted]
  rfl

theorem coordinatesOf_of_lt
    (counts : s.cellCount = .ok count) {ordinal : Nat} (below : ordinal < count) :
  s.coordinatesOf ordinal = .ok (coordinatesFrom ordinal s.lengths)
  := by
  rw [coordinatesOf, checkOrdinal_of_lt counts below]
  rfl

/-- The numbers below the count and the coordinates that reach a position of every axis name the
same cells, and nothing else names a cell. -/
structure Numbered (s : CellSet) (count : Nat) : Prop where
  /-- A number below the count has coordinates, whose number it is. -/
  coordinates : ∀ ordinal, ordinal < count → ∃ coordinates,
    s.coordinatesOf ordinal = .ok coordinates ∧ s.Reaches coordinates
      ∧ s.ordinalOf coordinates = .ok ordinal
  /-- Coordinates within the axes have a number below the count, whose coordinates they are. -/
  ordinal : ∀ coordinates, s.Reaches coordinates → ∃ ordinal,
    s.ordinalOf coordinates = .ok ordinal ∧ ordinal < count
      ∧ ordinal = weighed s.lengths coordinates
      ∧ s.coordinatesOf ordinal = .ok coordinates
  noCoordinates : ∀ ordinal, count ≤ ordinal → ∃ misuse,
    s.coordinatesOf ordinal = .error (.badUsage misuse)
  noOrdinal : ∀ coordinates, ¬ s.Reaches coordinates → ∃ misuse,
    s.ordinalOf coordinates = .error (.badUsage misuse)

/-- Cells that cannot be counted have neither numbers nor coordinates. -/
structure Uncounted (s : CellSet) (failure : Failure) : Prop where
  ordinal : ∀ coordinates, coordinates.length = s.axes.length →
    s.ordinalOf coordinates = .error failure
  coordinates : ∀ ordinal, s.coordinatesOf ordinal = .error failure
  cell : ∀ ordinal, s.cellAt ordinal = .error failure

theorem numbered_of_cellCount (counts : s.cellCount = .ok count) :
  s.Numbered count
  := by
  have product := eq_prod_of_cellCount counts
  constructor
  · intro ordinal below
    have fits : ordinal < s.lengths.prod := by
      rw [← product]
      apply below
    have reaches : s.Reaches (coordinatesFrom ordinal s.lengths) := coordinatesFrom_lt fits
    use coordinatesFrom ordinal s.lengths, coordinatesOf_of_lt counts below, reaches
    rw [ordinalOf_of_reaches counts reaches, weighed_coordinatesFrom fits]
  · intro coordinates reaches
    have below : weighed s.lengths coordinates < count := by
      rw [product]
      apply weighed_lt reaches
    use weighed s.lengths coordinates, ordinalOf_of_reaches counts reaches, below, rfl
    rw [coordinatesOf_of_lt counts below, coordinatesFrom_weighed reaches]
  · intro ordinal beyond
    use .cellOrdinal ordinal count
    rw [coordinatesOf, checkOrdinal_of_le counts beyond]
    rfl
  · intro coordinates h
    apply ordinalOf_of_not_reaches counts h

theorem uncounted_of_cellCount {failure : Failure} (uncounted : s.cellCount = .error failure) :
  s.Uncounted failure
  := by
  have check := checkOrdinal_of_error uncounted
  constructor
  · intro coordinates as_many
    rw [ordinalOf, if_pos as_many, uncounted]
    rfl
  · intro ordinal
    rw [coordinatesOf, check]
    rfl
  · intro ordinal
    rw [cellAt, check]
    rfl

theorem checkedOrdinalOf_eq (s : CellSet) (coordinates : List Nat) :
  s.checkedOrdinalOf coordinates = some (s.ordinalOf coordinates)
  := by
  rw [checkedOrdinalOf, ordinalOf]
  by_cases as_many : coordinates.length = s.axes.length
  · rw [if_pos as_many, if_pos as_many]
    cases counts : s.cellCount with
    | ok count => apply checkedOrdinalFrom_eq (by decide) (boundedProduct_of_cellCount counts)
    | error failure => rfl
  · rw [if_neg as_many, if_neg as_many]

theorem checkedCoordinatesOf_eq (s : CellSet) (ordinal : Nat) :
  s.checkedCoordinatesOf ordinal = some (s.coordinatesOf ordinal)
  := by
  rw [checkedCoordinatesOf, coordinatesOf]
  cases counts : s.cellCount with
  | error failure =>
    rw [checkOrdinal_of_error counts]
    rfl
  | ok count =>
    by_cases below : ordinal < count
    · have positive : 0 < s.lengths.prod := by
        rw [← eq_prod_of_cellCount counts]
        apply Nat.zero_lt_of_lt below
      rw [checkOrdinal_of_lt counts below, checkedCoordinatesFrom_eq positive]
      rfl
    · rw [checkOrdinal_of_le counts (Nat.le_of_not_lt below)]
      rfl

/-- If the cells of a cell set can be counted, its numbers and its coordinates are in bijection, and
if they cannot, there are none.  Neither way does a sum or a product leave the sizes or a division
meet an axis without positions. -/
theorem cells_numbered (s : CellSet) :
  (∀ count, s.cellCount = .ok count → s.Numbered count)
    ∧ (∀ failure, s.cellCount = .error failure → s.Uncounted failure)
    ∧ (∀ coordinates, s.checkedOrdinalOf coordinates = some (s.ordinalOf coordinates))
    ∧ (∀ ordinal, s.checkedCoordinatesOf ordinal = some (s.coordinatesOf ordinal))
  := by
  constructor
  · intro count counts
    apply numbered_of_cellCount counts
  constructor
  · intro failure uncounted
    apply uncounted_of_cellCount uncounted
  constructor
  · apply checkedOrdinalOf_eq
  · apply checkedCoordinatesOf_eq

end CellSet

end OlapClient.Cube
