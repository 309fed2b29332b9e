import OlapClient.Proofs.Number.Checked
import OlapClient.Proofs.Table.Moving

/-!
# The range of a cursor

`checkedTarget` computes where a movement leads in 64-bit integers, in which a plain sum may have no
place.  `range_kept` says that on every run it computes what `target` says; that a cursor stays
between before its first row and after its last as long as no relative movement lands outside, and
then knows where it stands; and which movements bring it back from wherever it is.
-/

namespace OlapClient.Table

open OlapClient.Number

/-- The argument of a movement is a signed 64-bit integer. -/
def Move.Fits : Move → Prop
  | .absolute row => IntKind.int64.Holds row
  | .relative delta => IntKind.int64.Holds delta
  | _ => True

instance (m : Move) : Decidable m.Fits :=
  match m with
  | .absolute row => inferInstanceAs (Decidable (IntKind.int64.Holds row))
  | .relative delta => inferInstanceAs (Decidable (IntKind.int64.Holds delta))
  | .next | .previous | .first | .last | .beforeFirst | .afterLast => .isTrue trivial

/-- A movement that may leave the range of the cursor. -/
def Move.isRelative : Move → Bool
  | .relative _ => true
  | _ => false

/-- A movement that leads into the range of a cursor over `length` rows from anywhere. -/
def Move.Returns (length : Nat) : Move → Prop
  | .absolute _ | .last | .beforeFirst => True
  | .first | .afterLast => 0 < length
  | .next | .previous | .relative _ => False

namespace Cursor

/-! ### 64-bit arithmetic -/

/-- `target` in 64-bit integers: nothing where a plain sum or difference has no place in them. -/
def checkedTarget (c : Cursor) : Move → Option Int
  | .next =>
    if c.position < c.limit then IntKind.int64.checked (c.position + 1) else some c.position
  | .previous => some (max (IntKind.int64.saturated (c.position - 1)) before)
  | .absolute row =>
    if row < 0 then some (max (IntKind.int64.saturated (c.limit + row)) before)
    else (IntKind.int64.checked (row - 1)).map (min · c.limit)
  | .relative delta => some (IntKind.int64.saturated (c.position + delta))
  | .first => some (if c.length = 0 then c.position else 0)
  | .last => IntKind.int64.checked (c.limit - 1)
  | .beforeFirst => some before
  | .afterLast => some (if 0 < c.length then c.limit else c.position)

/-- `final` in 64-bit integers. -/
def checkedFinal (c : Cursor) : List Move → Option Cursor
  | [] => some c
  | m :: moves => (c.checkedTarget m).bind fun position => (c.movedTo position).checkedFinal moves

/-- `row` in 64-bit integers. -/
def checkedRow (c : Cursor) : Option Nat :=
  match c.index with
  | .ok i => checkedSize (i + 1)
  | .error _ => some 0

/-- `isLast` in 64-bit integers. -/
def checkedIsLast (c : Cursor) : Option Bool :=
  if c.length = 0 then some false
  else (IntKind.int64.checked (c.limit - 1)).map (c.position == ·)

/-- The position of a cursor is a signed 64-bit integer. -/
def Held (c : Cursor) : Prop :=
  IntKind.int64.Holds c.position

theorem held_iff {c : Cursor} :
  c.Held ↔ -9223372036854775808 ≤ c.position ∧ c.position ≤ 9223372036854775807
  := IntKind.holds_int64_iff

/-- A relative movement goes as far as there are positions. -/
theorem target_relative (c : Cursor) (delta : Int) :
  c.target (.relative delta) = IntKind.int64.saturated (c.position + delta)
  := rfl

theorem held_move {c : Cursor} (held : c.Held) (m : Move) :
  (c.move m).1.Held
  := by
  have low := c.zero_le_limit
  have high := c.limit_le
  rw [held_iff] at held ⊢
  rw [position_move]
  cases m with
  | next | absolute _ | first | afterLast =>
    simp only [target, before]
    split <;> omega
  | previous | last | beforeFirst =>
    simp only [target, before]
    omega
  | relative delta =>
    rw [target_relative, IntKind.saturated_int64]
    omega

theorem held_final {c : Cursor} (held : c.Held) (moves : List Move) :
  (c.final moves).Held
  := by
  induction moves generalizing c with
  | nil => apply held
  | cons m moves ih => apply ih (held_move held m)

/-- Every plain sum of a movement has its place in the 64-bit integers: the position is below the
end where one is added to it, and from a number of a row or from the end one can be taken away. -/
theorem checkedTarget_eq {c : Cursor} {m : Move} (held : c.Held) (fits : m.Fits) :
  c.checkedTarget m = some (c.target m)
  := by
  have low := c.zero_le_limit
  have high := c.limit_le
  rw [held_iff] at held
  cases m with
  | next =>
    rw [checkedTarget, target]
    split
    · apply IntKind.checked_of_holds
      rw [IntKind.holds_int64_iff]
      omega
    · rfl
  | previous =>
    rw [checkedTarget, target, IntKind.saturated_int64, Option.some.injEq, before]
    omega
  | absolute row =>
    rw [Move.Fits, IntKind.holds_int64_iff] at fits
    rw [checkedTarget, target]
    split
    · rw [IntKind.saturated_int64, Option.some.injEq, before]
      omega
    · have place : IntKind.int64.Holds (row - 1) := by
        rw [IntKind.holds_int64_iff]
        omega
      rw [IntKind.checked_of_holds place, Option.map_some]
  | last =>
    apply IntKind.checked_of_holds
    rw [IntKind.holds_int64_iff]
    omega
  | relative _ | first | beforeFirst | afterLast => rfl

theorem checkedFinal_eq
    {c : Cursor} {moves : List Move} (held : c.Held) (fit : ∀ m ∈ moves, m.Fits) :
  c.checkedFinal moves = some (c.final moves)
  := by
  induction moves generalizing c with
  | nil => rfl
  | cons m moves ih =>
    rw [List.forall_mem_cons] at fit
    rw [checkedFinal, checkedTarget_eq held fit.1, Option.bind_some, ← move_eq, final]
    apply ih (held_move held m) fit.2

theorem held_start (length : Nat) :
  (start length).Held
  := by
  rw [held_iff]
  simp [start]

theorem index_eq_ok_iff {c : Cursor} {i : Nat} :
  c.index = .ok i ↔ c.position = i ∧ i < c.length
  := by
  rw [index]
  split
  · simp only [Except.ok.injEq]
    omega
  · simp only [reduceCtorEq, false_iff]
    omega

theorem checkedRow_eq {c : Cursor} (size : c.length ≤ maxSize) :
  c.checkedRow = some c.row
  := by
  rw [checkedRow, row]
  cases found : c.index with
  | error failure => rfl
  | ok i =>
    apply checkedSize_of_le
    have below := (index_eq_ok_iff.mp found).2
    omega

theorem checkedIsLast_eq (c : Cursor) :
  c.checkedIsLast = some c.isLast
  := by
  have low := c.zero_le_limit
  have high := c.limit_le
  have place : IntKind.int64.Holds (c.limit - 1) := by
    rw [IntKind.holds_int64_iff]
    omega
  rw [checkedIsLast, isLast]
  by_cases none : c.length = 0
  · simp [none]
  · have some_row : 0 < c.length := Nat.pos_of_ne_zero none
    simp [none, some_row, IntKind.checked_of_holds place]

/-! ### Within the range -/

/-- A cursor is nowhere before the position before its first row and nowhere after the one after its
last row. -/
def InRange (c : Cursor) : Prop :=
  before ≤ c.position ∧ c.position ≤ c.length

instance (c : Cursor) : Decidable c.InRange :=
  inferInstanceAs (Decidable (_ ∧ _))

/-- No relative movement of a run lands outside the range. -/
def KeepsTo (c : Cursor) : List Move → Prop
  | [] => True
  | m :: moves => (m.isRelative → (c.move m).1.InRange) ∧ (c.move m).1.KeepsTo moves

instance decidableKeepsTo : (c : Cursor) → (moves : List Move) → Decidable (c.KeepsTo moves)
  | _, [] => .isTrue trivial
  | c, m :: moves =>
    have : Decidable ((c.move m).1.KeepsTo moves) := decidableKeepsTo (c.move m).1 moves
    inferInstanceAs (Decidable (_ ∧ _))

theorem inRange_start (length : Nat) :
  (start length).InRange
  := by
  simp [InRange, start, before]

/-- A movement that is not relative does not lead out of the range. -/
theorem inRange_move {c : Cursor} {m : Move} (inRange : c.InRange) (plain : m.isRelative = false) :
  (c.move m).1.InRange
  := by
  have low := c.zero_le_limit
  have high := c.limit_le_length
  unfold InRange at *
  rw [position_move, length_move]
  cases m with
  | relative _ => cases plain
  | next | absolute _ | first | afterLast =>
    simp only [target, before] at *
    split <;> omega
  | previous | last | beforeFirst =>
    simp only [target, before] at *
    omega

theorem inRange_final
    {c : Cursor} {moves : List Move} (inRange : c.InRange) (keeps : c.KeepsTo moves) :
  (c.final moves).InRange
  := by
  induction moves generalizing c with
  | nil => apply inRange
  | cons m moves ih =>
    apply ih _ keeps.2
    cases relative : m.isRelative with
    | true => apply keeps.1 relative
    | false => apply inRange_move inRange relative

/-- Some movements lead into the range from anywhere. -/
theorem inRange_of_returns {c : Cursor} {m : Move} (returns : m.Returns c.length) :
  (c.move m).1.InRange
  := by
  have low := c.zero_le_limit
  have high := c.limit_le_length
  unfold InRange
  rw [position_move, length_move]
  cases m with
  | next | previous | relative _ => cases returns
  | absolute _ =>
    simp only [target, before]
    split <;> omega
  | first =>
    have some_row : c.length ≠ 0 := Nat.ne_of_gt returns
    simp only [target, before, if_neg some_row]
    omega
  | afterLast =>
    have some_row : 0 < c.length := returns
    simp only [target, before, if_pos some_row]
    omega
  | last | beforeFirst =>
    simp only [target, before]
    omega

/-! ### Where a cursor stands -/

theorem row_eq_iff {c : Cursor} {n : Nat} (positive : 0 < n) :
  c.row = n ↔ c.position = (n : Int) - 1 ∧ n ≤ c.length
  := by
  rw [row]
  cases found : c.index with
  | ok i =>
    have place := index_eq_ok_iff.mp found
    dsimp only
    omega
  | error failure =>
    have off : ¬ (c.position = ((n - 1 : Nat) : Int) ∧ n - 1 < c.length) := by
      rw [← index_eq_ok_iff, found]
      simp
    dsimp only
    omega

/-- What a cursor in its range says of where it stands. -/
structure Placed (c : Cursor) : Prop where
  inRange : c.InRange
  /-- Over some rows, the cursor is before them, on one of them or after them. -/
  one : 0 < c.length → [c.isBeforeFirst, c.isValid, c.isAfterLast].count true = 1
  first : 0 < c.length → (c.isFirst ↔ c.row = 1)
  last : 0 < c.length → (c.isLast ↔ c.row = c.length)
  /-- Over no rows, the cursor is nowhere. -/
  empty : c.length = 0 →
    c.isBeforeFirst = false ∧ c.isAfterLast = false ∧ c.isFirst = false ∧ c.isLast = false

theorem placed_of_inRange
    {c : Cursor} (positions : (c.length : Int) ≤ greatestPosition) (inRange : c.InRange) :
  c.Placed
  := by
  have limit := limit_eq_length positions
  constructor
  · apply inRange
  · intro some_row
    obtain ⟨low, high⟩ := inRange
    rw [before] at low
    have places : c.position = -1 ∨ (0 ≤ c.position ∧ c.position < c.length)
        ∨ c.position = c.length := by omega
    simp only [isBeforeFirst, isValid, isAfterLast, before, limit, some_row, decide_true,
      Bool.true_and]
    rcases places with first | ⟨some_place, below⟩ | last
    · have apart : (-1 : Int) ≠ c.length := by omega
      simp [first, apart]
    · have after : c.position ≠ -1 := by omega
      have within : c.position ≠ c.length := by omega
      simp [some_place, below, after, within]
    · have apart : (c.length : Int) ≠ -1 := by omega
      simp [last, apart]
  · intro some_row
    rw [row_eq_iff (by decide)]
    simp [isFirst, some_row]
    omega
  · intro some_row
    rw [row_eq_iff some_row]
    simp [isLast, some_row, limit]
  · intro none
    simp [isBeforeFirst, isAfterLast, isFirst, isLast, none]

/-- On every run over any number of rows, whatever the arguments, no plain sum leaves the 64-bit
integers.  If the rows have positions, a run stays in the range of the cursor as long as no relative
movement lands outside, and the cursor knows where it stands; and from wherever relative movements
lead, an absolute movement, the movements to the ends and, over some rows, those to the first row
and after the last lead back. -/
theorem range_kept
    {length : Nat} (size : length ≤ maxSize) {moves : List Move} (fit : ∀ m ∈ moves, m.Fits) :
  (start length).checkedFinal moves = some ((start length).final moves)
    ∧ ((start length).final moves).checkedRow = some ((start length).final moves).row
    ∧ ((start length).final moves).checkedIsLast = some ((start length).final moves).isLast
    ∧ ((length : Int) ≤ greatestPosition →
      ((start length).KeepsTo moves → ((start length).final moves).Placed)
      ∧ ∀ m : Move, m.Returns length → (((start length).final moves).move m).1.InRange)
  := by
  have rows : ((start length).final moves).length = length := length_final _ _
  constructor
  · apply checkedFinal_eq (held_start length) fit
  constructor
  · apply checkedRow_eq
    rw [rows]
    apply size
  constructor
  · apply checkedIsLast_eq
  intro positions
  constructor
  · intro keeps
    apply placed_of_inRange
    · rw [rows]
      apply positions
    · apply inRange_final (inRange_start length) keeps
  · intro m returns
    apply inRange_of_returns
    rw [rows]
    apply returns

/-- A run that two relative movements take to either end of three rows. -/
def endToEnd : List Move :=
  [.absolute (-1), .relative 1, .previous, .next, .relative (-4), .previous]

theorem range_kept_endToEnd :
  (3 ≤ maxSize ∧ ∀ m ∈ endToEnd, m.Fits)
    ∧ ((start 3).checkedFinal endToEnd = some ((start 3).final endToEnd)
      ∧ ((start 3).final endToEnd).checkedRow = some ((start 3).final endToEnd).row
      ∧ ((start 3).final endToEnd).checkedIsLast = some ((start 3).final endToEnd).isLast)
    ∧ (start 3).KeepsTo endToEnd ∧ ((start 3).final endToEnd).Placed
  := by
  have size : 3 ≤ maxSize := by decide
  have fit : ∀ m ∈ endToEnd, m.Fits := by decide
  have keeps : (start 3).KeepsTo endToEnd := by decide
  obtain ⟨run, row, isLast, range⟩ := range_kept size fit
  exact ⟨⟨size, fit⟩, ⟨run, row, isLast⟩, keeps, (range (by decide)).1 keeps⟩

end Cursor

end OlapClient.Table
