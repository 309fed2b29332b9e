import OlapClient.Proofs.Table.Collecting
import OlapClient.Proofs.Table.Range

/-!
# Walking over the rows

`RowSet.walk` takes the row that a cursor moves on to, as long as moving on says that there is one.
`next_promises_row` says that from the position before the first row and from any later one the walk
takes the rows that are left and nothing else.  A relative movement can lead further down, where the
cursor moves on towards the rows without being on any, so the walk fails; `next_without_row` has the
cursor there.
-/

namespace OlapClient.Table

open OlapClient.Markup
open OlapClient.Protocol

namespace Cursor

theorem next_of_lt {c : Cursor} (room : c.position + 1 < c.limit) :
  c.next = (c.movedTo (c.position + 1), true)
  := by
  have before_end : c.position < c.limit := by omega
  simp only [next, if_pos before_end, Prod.mk.injEq, true_and, decide_eq_true_eq]
  apply room

/-- Moving on says that it came to a row exactly when there is room for one more step. -/
theorem next_eq_true_iff {c : Cursor} :
  c.next.2 = true ↔ c.position + 1 < c.limit
  := by
  constructor
  · intro more
    simp only [next, decide_eq_true_eq] at more
    split at more
    · apply more
    · contradiction
  · intro room
    rw [next_of_lt room]

theorem isValid_iff {c : Cursor} :
  c.isValid = true ↔ 0 ≤ c.position ∧ c.position < c.limit
  := by
  simp [isValid]

theorem index_of_isValid {c : Cursor} (valid : c.isValid = true) :
  c.index = .ok c.position.toNat
  := by
  have place := isValid_iff.mp valid
  have rows := c.limit_le_length
  apply index_eq_ok_iff.mpr
  omega

theorem index_of_neg {c : Cursor} (off : c.position < 0) :
  c.index = .error (.cursorPosition c.position c.length)
  := by
  rw [index, if_neg (by omega)]

/-- Where moving on says that it came to a row, it did exactly when it did not start below the
position before the first row. -/
theorem isValid_next_iff {c : Cursor} (more : c.next.2 = true) :
  c.next.1.isValid = true ↔ before ≤ c.position
  := by
  have room := next_eq_true_iff.mp more
  rw [next_of_lt room, isValid_iff, before]
  constructor
  · rintro ⟨some_place, -⟩
    simp only [movedTo] at some_place
    omega
  · intro above
    constructor
    · simp only [movedTo]
      omega
    · apply room

end Cursor

namespace RowSet

theorem cursor_move (s : RowSet) (m : Move) :
  (s.move m).1 = ⟨s.columns, s.rows, (s.cursor.move m).1⟩
  := rfl

/-- The rows that are taken by moving on and taking the row under the cursor, as long as moving on
says that there is one. -/
def walk (s : RowSet) : Except Failure (List Row) :=
  if _ : (s.move .next).2 = some true then do
    let row ← (s.move .next).1.current
    let rows ← walk (s.move .next).1
    return row :: rows
  else return []
termination_by (s.cursor.limit - s.cursor.position).toNat
decreasing_by
  have room : s.cursor.position + 1 < s.cursor.limit :=
    Cursor.next_eq_true_iff.mp (Option.some.inj ‹_›)
  have moved : (s.move .next).1.cursor = s.cursor.movedTo (s.cursor.position + 1) :=
    congrArg Prod.fst (Cursor.next_of_lt room)
  rw [moved]
  simp only [Cursor.movedTo, Cursor.limit] at room ⊢
  omega

/-- Moving on to a row and taking it opens the walk. -/
theorem walk_of_lt {s : RowSet} (room : s.cursor.position + 1 < s.cursor.limit) :
  s.walk = do
    let moved : RowSet := ⟨s.columns, s.rows, s.cursor.movedTo (s.cursor.position + 1)⟩
    let row ← moved.current
    let rows ← moved.walk
    return row :: rows
  := by
  have more : (s.move .next).2 = some true := congrArg some (Cursor.next_eq_true_iff.mpr room)
  have moved : (s.move .next).1
      = ⟨s.columns, s.rows, s.cursor.movedTo (s.cursor.position + 1)⟩ := by
    rw [cursor_move, Cursor.move, Cursor.move.answered, Cursor.next_of_lt room]
  rw [walk, dif_pos more, moved]

theorem walk_of_le {s : RowSet} (ended : s.cursor.limit ≤ s.cursor.position + 1) :
  s.walk = .ok []
  := by
  have no_more : (s.move .next).2 ≠ some true := by
    intro more
    have room := Cursor.next_eq_true_iff.mp (Option.some.inj more)
    omega
  rw [walk, dif_neg no_more]
  rfl

theorem current_of_position
    {s : RowSet} (stored : s.cursor.length = s.rows.size) {i : Nat} (below : i < s.rows.size)
    (place : s.cursor.position = i) :
  s.current = .ok (s.rowOf s.rows[i])
  := by
  have index : s.cursor.index = .ok i := by
    apply Cursor.index_eq_ok_iff.mpr
    omega
  rw [current, index]
  simp [bind, Except.bind, below]
  rfl

/-- A walk that comes to the row of an index takes that row and all after it. -/
theorem walk_of_position
    {s : RowSet} (stored : s.cursor.length = s.rows.size)
    (positions : (s.rows.size : Int) ≤ Cursor.greatestPosition) {i : Nat}
    (place : s.cursor.position + 1 = i) :
  s.walk = .ok (s.allRows.drop i)
  := by
  have limit : s.cursor.limit = s.rows.size := by
    rw [← stored] at positions ⊢
    apply Cursor.limit_eq_length positions
  have rows : s.allRows.length = s.rows.size := by simp [allRows]
  -- the induction is on the number of rows that are left
  induction left : s.rows.size - i generalizing s i with
  | zero =>
    rw [walk_of_le (by omega), List.drop_eq_nil_of_le (by omega)]
  | succ left ih =>
    have below : i < s.rows.size := by omega
    have row : s.allRows[i] = s.rowOf s.rows[i] := by simp [allRows]
    have taken := current_of_position
      (s := ⟨s.columns, s.rows, s.cursor.movedTo (s.cursor.position + 1)⟩) stored below place
    have later := ih (s := ⟨s.columns, s.rows, s.cursor.movedTo (s.cursor.position + 1)⟩)
      (i := i + 1) stored positions (by simp [Cursor.movedTo, place]) limit rows (by simp; omega)
    rw [walk_of_lt (by omega), List.drop_eq_getElem_cons (by omega), row]
    dsimp only
    rw [taken, later]
    rfl

/-- A walk that begins further down fails at its first step. -/
theorem walk_of_lt_before {s : RowSet} (below : s.cursor.position < Cursor.before) :
  s.walk = .error (.cursorPosition (s.cursor.position + 1) s.cursor.length)
  := by
  have low := s.cursor.zero_le_limit
  rw [Cursor.before] at below
  have off := Cursor.index_of_neg (c := s.cursor.movedTo (s.cursor.position + 1))
    (by simp only [Cursor.movedTo]; omega)
  rw [walk_of_lt (by omega)]
  dsimp only
  rw [current, off]
  rfl

end RowSet

/-- Over rows that have positions, wherever movements led: moving on that says that it came to a row
did so, and a walk takes the rows that are left, unless a relative movement led below the position
before the first row.  From there, moving on comes to no row and a walk fails.  A run whose relative
movements stay in the range does not lead there. -/
theorem next_promises_row
    {columns : List Column} {rows : List Element} {moves : List Move} {s : RowSet}
    (reached : s = (RowSet.ofRows columns rows).final moves)
    (positions : (rows.length : Int) ≤ Cursor.greatestPosition) :
  (s.cursor.next.2 = true →
      ((s.cursor.next.1.isValid = true ∧ ∃ i, s.cursor.next.1.index = .ok i)
        ↔ Cursor.before ≤ s.cursor.position))
    ∧ (s.walk = if Cursor.before ≤ s.cursor.position
      then .ok ((rows.map s.rowOf).drop (s.cursor.position + 1).toNat)
      else .error (.cursorPosition (s.cursor.position + 1) rows.length))
    ∧ ((Cursor.start rows.length).KeepsTo moves → Cursor.before ≤ s.cursor.position)
  := by
  have held : s.rows = rows.toArray := by rw [reached, RowSet.final_eq, RowSet.ofRows]
  have length : s.cursor.length = rows.length := by
    rw [reached, RowSet.final_eq, RowSet.ofRows, Cursor.length_final]
    rfl
  constructor
  · intro more
    rw [← Cursor.isValid_next_iff more]
    constructor
    · rintro ⟨valid, -⟩
      apply valid
    · intro valid
      use valid, s.cursor.next.1.position.toNat
      apply Cursor.index_of_isValid valid
  constructor
  · split
    · rename_i above
      rw [Cursor.before] at above
      have all : s.allRows = rows.map s.rowOf := by rw [RowSet.allRows, held]
      rw [← all]
      apply RowSet.walk_of_position
      · rw [held, length, List.size_toArray]
      · rw [held, List.size_toArray]
        apply positions
      · omega
    · rename_i below
      rw [← length]
      apply RowSet.walk_of_lt_before
      omega
  · intro keeps
    rw [reached, RowSet.final_eq]
    apply (Cursor.inRange_final (Cursor.inRange_start rows.length) keeps).1

/-- A row without fields. -/
def bareRow : Element :=
  ⟨⟨"row", some rowsetNs, "row", []⟩, .ofNodes []⟩

/-- Three rows with the cursor on the second, after it was far behind the last. -/
def onSecond : RowSet :=
  (RowSet.ofRows [] [bareRow, bareRow, bareRow]).final [.relative 7, .absolute (-2)]

theorem next_promises_row_onSecond :
  (onSecond = (RowSet.ofRows [] [bareRow, bareRow, bareRow]).final [.relative 7, .absolute (-2)]
      ∧ (([bareRow, bareRow, bareRow].length : Nat) : Int) ≤ Cursor.greatestPosition)
    ∧ onSecond.cursor.next.2 = true
    ∧ (onSecond.cursor.next.1.isValid = true ∧ ∃ i, onSecond.cursor.next.1.index = .ok i)
    ∧ onSecond.walk = .ok [⟨[], bareRow⟩]
  := by
  have more : onSecond.cursor.next.2 = true := by decide
  have above : Cursor.before ≤ onSecond.cursor.position := by decide
  obtain ⟨promises, walk, -⟩ := next_promises_row (s := onSecond) rfl (by decide)
  rw [if_pos above] at walk
  exact ⟨⟨rfl, by decide⟩, more, (promises more).mpr above, walk⟩

/-- From below the position before the first of three rows, moving on says that it came to a row and
came to none. -/
theorem next_without_row :
  ¬ ∀ (length : Nat) (moves : List Move), (length : Int) ≤ Cursor.greatestPosition →
    ((Cursor.start length).final moves).next.2 = true →
      ((Cursor.start length).final moves).next.1.isValid = true
        ∧ ∃ i, ((Cursor.start length).final moves).next.1.index = .ok i
  := by
  intro promises
  have valid := (promises 3 [.relative (-5)] (by decide) (by decide)).1
  apply absurd valid
  decide

end OlapClient.Table
