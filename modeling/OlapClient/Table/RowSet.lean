import OlapClient.Table.Cursor
import OlapClient.Table.Handler
import OlapClient.Value.Decoding
import OlapClient.Value.Field

/-!
# Row sets

A `RowSet` holds a tabular result with a cursor over its rows, and `collecting` is the handler
that fills one.  A `Row` gives the values of one row by ordinal or by label; a field that the
row does not have is `null`.  A getter also says what a value is decoded as: `Value.decode` takes
it to a target, and `Value.decodeOption` to a target or nothing.
-/

namespace OlapClient.Table

open OlapClient.Markup
open OlapClient.Protocol

/-- A row of a tabular result, with the columns that type its fields. -/
structure Row where
  columns : List Column
  element : Element
  deriving DecidableEq, Repr

namespace Row

/-- The value in a column of the row. -/
def valueIn (r : Row) (column : Column) : Except Failure Value :=
  readField r.element rowsetNs column.name column.type

/-- The value in the column with an ordinal. -/
def value (r : Row) (ordinal : Nat) : Except Failure Value := do
  let column ← columnAt r.columns ordinal
  r.valueIn column

/-- The value in the first column with a label. -/
def valueByLabel (r : Row) (label : String) : Except Failure Value := do
  let ordinal ← findColumn r.columns label
  r.value ordinal

/-- The value in the column with an ordinal, as what `decode` makes of it. -/
def get {α : Type} (r : Row) (decode : Value → Except Failure α) (ordinal : Nat) :
    Except Failure α := do
  let value ← r.value ordinal
  decode value

/-- The value in the first column with a label, as what `decode` makes of it. -/
def getByLabel {α : Type} (r : Row) (decode : Value → Except Failure α) (label : String) :
    Except Failure α := do
  let value ← r.valueByLabel label
  decode value

/-- The values in all columns, in order. -/
def values (r : Row) : Except Failure (List Value) :=
  r.columns.mapM r.valueIn

end Row

/-- A tabular result with a cursor over its rows. -/
structure RowSet where
  columns : List Column
  rows : Array Element
  cursor : Cursor
  deriving DecidableEq, Repr

namespace RowSet

/-- A row set that nothing was read into. -/
def empty : RowSet :=
  ⟨[], #[], .start 0⟩

/-- A row of the set. -/
def rowOf (s : RowSet) (element : Element) : Row :=
  ⟨s.columns, element⟩

/-- All rows in document order, whatever the cursor. -/
def allRows (s : RowSet) : List Row :=
  s.rows.toList.map s.rowOf

/-- The row under the cursor. -/
def current (s : RowSet) : Except Failure Row := do
  let index ← s.cursor.index
  match s.rows[index]? with
  | some element => return s.rowOf element
  | none => .error (.internal "cursor is on a row that is not stored")

/-- The value in the current row of the column with an ordinal. -/
def value (s : RowSet) (ordinal : Nat) : Except Failure Value := do
  let row ← s.current
  row.value ordinal

/-- The value in the current row of the first column with a label. -/
def valueByLabel (s : RowSet) (label : String) : Except Failure Value := do
  let row ← s.current
  row.valueByLabel label

/-- The value in the current row of the column with an ordinal, as what `decode` makes of it. -/
def get {α : Type} (s : RowSet) (decode : Value → Except Failure α) (ordinal : Nat) :
    Except Failure α := do
  let row ← s.current
  row.get decode ordinal

/-- The value in the current row of the first column with a label, as what `decode` makes of
it. -/
def getByLabel {α : Type} (s : RowSet) (decode : Value → Except Failure α) (label : String) :
    Except Failure α := do
  let row ← s.current
  row.getByLabel decode label

/-- A row set with its cursor moved, and the answer of the movement where it has one. -/
def move (s : RowSet) (m : Move) : RowSet × Option Bool :=
  let (cursor, answer) := s.cursor.move m
  (⟨s.columns, s.rows, cursor⟩, answer)

/-- The row set with given columns and no rows. -/
def withColumns (columns : List Column) : RowSet :=
  ⟨columns, #[], .start 0⟩

/-- The row set with one more row and its cursor before the first row. -/
def push (s : RowSet) (row : Element) : RowSet :=
  let rows := s.rows.push row
  ⟨s.columns, rows, .start rows.size⟩

end RowSet

/-- The handler that collects a tabular result in a row set. -/
def collecting : RowHandler RowSet where
  onColumns columns := set (RowSet.withColumns columns)
  onRow _ row := modify (·.push row)
  onFinish := pure ()

end OlapClient.Table
