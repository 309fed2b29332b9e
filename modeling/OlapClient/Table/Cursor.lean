import OlapClient.Failure

/-!
# Scrollable cursors

A `Cursor` stands before the first row, on a row, or after the last row of a result; its
positions are `-1`, `0` to `length - 1`, and `length`.  Only `relative` may leave that range.
Positions are signed 64-bit integers, so the position after the last row of an immense result
is the greatest of these, and `relative` stops at either end of them.
-/

namespace OlapClient.Table

open OlapClient.Number

/-- A position among the rows of a result. -/
structure Cursor where
  position : Int
  length : Nat
  deriving DecidableEq, Repr

namespace Cursor

/-- A cursor before the first of `length` rows. -/
def start (length : Nat) : Cursor :=
  ⟨-1, length⟩

/-- The position before the first row. -/
def before : Int := -1

/-- The least position that the cursor can represent. -/
def leastPosition : Int := IntKind.int64.lo

/-- The greatest position that the cursor can represent. -/
def greatestPosition : Int := IntKind.int64.hi

/-- The position after the last row. -/
def limit (c : Cursor) : Int :=
  min c.length greatestPosition

/-- There are no rows. -/
def isEmpty (c : Cursor) : Bool :=
  c.length == 0

/-- The cursor is on a row. -/
def isValid (c : Cursor) : Bool :=
  0 ≤ c.position && c.position < c.limit

/-- The place of the current row, counted from zero. -/
def index (c : Cursor) : Except Failure Nat :=
  if 0 ≤ c.position ∧ c.position < c.length then .ok c.position.toNat
  else .error (.cursorPosition c.position c.length)

/-- The number of the current row, counted from one; zero when the cursor is on no row. -/
def row (c : Cursor) : Nat :=
  match c.index with
  | .ok i => i + 1
  | .error _ => 0

/-- The cursor is before the first of some rows. -/
def isBeforeFirst (c : Cursor) : Bool :=
  0 < c.length && c.position == before

/-- The cursor is after the last of some rows. -/
def isAfterLast (c : Cursor) : Bool :=
  0 < c.length && c.position == c.limit

/-- The cursor is on the first row. -/
def isFirst (c : Cursor) : Bool :=
  0 < c.length && c.position == 0

/-- The cursor is on the last row. -/
def isLast (c : Cursor) : Bool :=
  0 < c.length && c.position == c.limit - 1

/-- The cursor at another position. -/
def movedTo (c : Cursor) (position : Int) : Cursor :=
  ⟨position, c.length⟩

/-- A cursor, and whether it is on a row. -/
def landed (c : Cursor) : Cursor × Bool :=
  (c, c.isValid)

/-- Moves one row on, at most to after the last row.  The answer is whether the cursor has not
come to the end of the rows. -/
def next (c : Cursor) : Cursor × Bool :=
  let moved := if c.position < c.limit then c.movedTo (c.position + 1) else c
  (moved, moved.position < c.limit)

/-- Moves one row back, at most to before the first row.  The answer is whether the cursor is
now before the first row. -/
def previous (c : Cursor) : Cursor × Bool :=
  let moved := c.movedTo (max (c.position - 1) before)
  (moved, moved.position == before)

/-- Moves to the row of a number, counted from one; a negative number counts from the end and
zero is before the first row.  The answer is whether the cursor is on a row. -/
def absolute (c : Cursor) (row : Int) : Cursor × Bool :=
  landed (c.movedTo (if row < 0 then max (c.limit + row) before else min (row - 1) c.limit))

/-- Moves by a number of rows, also out of the rows.  The answer is whether the cursor is on a
row. -/
def relative (c : Cursor) (delta : Int) : Cursor × Bool :=
  landed (c.movedTo (max leastPosition (min greatestPosition (c.position + delta))))

/-- Moves to the first row, if there is one.  The answer is whether there is one. -/
def first (c : Cursor) : Cursor × Bool :=
  if c.length = 0 then (c, false) else (c.movedTo 0, true)

/-- Moves to the last row, or before the first row if there is none.  The answer is whether the
cursor is on a row. -/
def last (c : Cursor) : Cursor × Bool :=
  landed (c.movedTo (c.limit - 1))

/-- Moves before the first row. -/
def beforeFirst (c : Cursor) : Cursor :=
  c.movedTo before

/-- Moves after the last row, if there is one. -/
def afterLast (c : Cursor) : Cursor :=
  if 0 < c.length then c.movedTo c.limit else c

end Cursor

/-- A movement of a cursor. -/
inductive Move where
  | next
  | previous
  | absolute (row : Int)
  | relative (delta : Int)
  | first
  | last
  | beforeFirst
  | afterLast
  deriving DecidableEq, Repr

/-- A cursor after a movement, and the answer of the movement where it has one. -/
def Cursor.move (c : Cursor) : Move → Cursor × Option Bool
  | .next => answered c.next
  | .previous => answered c.previous
  | .absolute row => answered (c.absolute row)
  | .relative delta => answered (c.relative delta)
  | .first => answered c.first
  | .last => answered c.last
  | .beforeFirst => (c.beforeFirst, none)
  | .afterLast => (c.afterLast, none)
where
  /-- A movement that has an answer. -/
  answered (result : Cursor × Bool) : Cursor × Option Bool :=
    (result.1, some result.2)

end OlapClient.Table
