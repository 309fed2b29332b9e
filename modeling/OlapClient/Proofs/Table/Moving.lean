import Mathlib.Tactic.Common
import OlapClient.Table.RowSet

/-!
# Runs of a cursor

A movement keeps the number of rows and leads to one position, its `target`.  What is to hold of a
cursor wherever it was moved is shown of the targets, movement by movement, and then of a run.  A
run of a row set is a run of its cursor.
-/

namespace OlapClient.Table

namespace Cursor

/-! ### Where a movement leads -/

/-- The position that a movement leads to. -/
def target (c : Cursor) : Move → Int
  | .next => if c.position < c.limit then c.position + 1 else c.position
  | .previous => max (c.position - 1) before
  | .absolute row => if row < 0 then max (c.limit + row) before else min (row - 1) c.limit
  | .relative delta => max leastPosition (min greatestPosition (c.position + delta))
  | .first => if c.length = 0 then c.position else 0
  | .last => c.limit - 1
  | .beforeFirst => before
  | .afterLast => if 0 < c.length then c.limit else c.position

/-- A movement changes the position and nothing else. -/
theorem move_eq (c : Cursor) (m : Move) :
  (c.move m).1 = c.movedTo (c.target m)
  := by
  cases m with
  | next =>
    simp only [move, move.answered, next, target]
    split <;> rfl
  | first =>
    simp only [move, move.answered, first, target]
    split <;> rfl
  | afterLast =>
    simp only [move, afterLast, target]
    split <;> rfl
  | previous | absolute _ | relative _ | last | beforeFirst => rfl

@[simp]
theorem position_move (c : Cursor) (m : Move) :
  (c.move m).1.position = c.target m
  := by
  rw [move_eq]
  rfl

@[simp]
theorem length_move (c : Cursor) (m : Move) :
  (c.move m).1.length = c.length
  := by
  rw [move_eq]
  rfl

/-! ### The end of the rows -/

theorem limit_le_length (c : Cursor) :
  c.limit ≤ c.length
  := Int.min_le_left _ _

theorem zero_le_limit (c : Cursor) :
  0 ≤ c.limit
  := Int.le_min.mpr ⟨Int.natCast_nonneg _, by decide⟩

/-- The position after the last row is one of those that a cursor can represent. -/
theorem limit_le (c : Cursor) :
  c.limit ≤ 9223372036854775807
  := Int.min_le_right _ _

/-- The position after the last row is the number of rows, unless there are more rows than
positions. -/
theorem limit_eq_length {c : Cursor} (positions : (c.length : Int) ≤ greatestPosition) :
  c.limit = c.length
  := Int.min_eq_left positions

/-! ### Runs -/

/-- A cursor after movements, one after the other. -/
def final (c : Cursor) : List Move → Cursor
  | [] => c
  | m :: moves => (c.move m).1.final moves

@[simp]
theorem length_final (c : Cursor) (moves : List Move) :
  (c.final moves).length = c.length
  := by
  induction moves generalizing c with
  | nil => rfl
  | cons m moves ih => rw [final, ih, length_move]

end Cursor

/-- A row set after movements of its cursor, one after the other. -/
def RowSet.final (s : RowSet) : List Move → RowSet
  | [] => s
  | m :: moves => (s.move m).1.final moves

/-- Movements change the cursor of a row set and nothing else. -/
theorem RowSet.final_eq (s : RowSet) (moves : List Move) :
  s.final moves = ⟨s.columns, s.rows, s.cursor.final moves⟩
  := by
  induction moves generalizing s with
  | nil => rfl
  | cons m moves ih => apply ih

end OlapClient.Table
