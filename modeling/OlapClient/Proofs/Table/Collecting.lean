import Mathlib.Tactic.Common
import OlapClient.Table.RowSet

/-!
# Collecting a tabular result

A read passes a table of columns and rows to a handler.  Collecting a table never fails.  Whatever a
row set held before, it then holds the columns that the result declares and all rows of the result
in document order, with its cursor before the first of them.
-/

namespace OlapClient.Table

open OlapClient.Markup
open OlapClient.Protocol

/-- Passes columns, rows of these columns and the end to a handler. -/
def passTable {σ : Type} (handler : RowHandler σ) (columns : List Column) (rows : List Element) :
    Handling σ Unit := do
  handler.onColumns columns
  rows.forM (handler.onRow columns)
  handler.onFinish

theorem readRoot_eq_passTable {σ : Type} (handler : RowHandler σ) (root : Element) :
  readRoot handler root = passTable handler (readColumns root) (rowElements root)
  := rfl

namespace RowSet

/-- The row set with these columns and rows and its cursor before the first row. -/
def ofRows (columns : List Column) (rows : List Element) : RowSet :=
  ⟨columns, rows.toArray, .start rows.length⟩

theorem push_ofRows (columns : List Column) (rows : List Element) (row : Element) :
  (ofRows columns rows).push row = ofRows columns (rows ++ [row])
  := by
  simp [push, ofRows]

theorem allRows_ofRows (columns : List Column) (rows : List Element) :
  (ofRows columns rows).allRows = rows.map (⟨columns, ·⟩)
  := rfl

end RowSet

/-- Rows are added after those already there. -/
theorem forM_onRow_collecting (columns columns' : List Column) (before rows : List Element) :
  rows.forM (collecting.onRow columns') (RowSet.ofRows columns before)
    = .ok () (RowSet.ofRows columns (before ++ rows))
  := by
  induction rows generalizing before with
  | nil =>
    rw [List.append_nil]
    rfl
  | cons row rows ih =>
    have later := ih (before ++ [row])
    rw [List.append_assoc, List.singleton_append, ← RowSet.push_ofRows] at later
    apply later

theorem passTable_collecting (columns : List Column) (rows : List Element) (before : RowSet) :
  passTable collecting columns rows before = .ok () (RowSet.ofRows columns rows)
  := by
  have received := forM_onRow_collecting columns columns [] rows
  have announced : collecting.onColumns columns before = .ok () (RowSet.ofRows columns []) := rfl
  rw [List.nil_append] at received
  rw [passTable]
  simp only [bind, EStateM.bind, announced, received]
  rfl

/-- Collecting a payload that has a root gives its columns and its rows. -/
theorem outcome_readRowSet_collecting
    {payload root : Element} (found : payload.findChild? rowsetNs "root" = some root)
    (before : RowSet) :
  (readRowSet collecting payload).outcome before
    = (.ok (), RowSet.ofRows (readColumns root) (rowElements root))
  := by
  rw [readRowSet, found, Handling.outcome]
  simp only [readRoot_eq_passTable, passTable_collecting]

/-! ### Results of numbered rows -/

/-- A row that tells itself apart by an attribute. -/
def rowNumbered (number : String) : Element :=
  ⟨⟨"row", some rowsetNs, "row", [⟨"number", none, "number", number⟩]⟩, .ofNodes []⟩

/-- A result without columns that has rows of these numbers. -/
def numberedRoot (numbers : List String) : Element :=
  ⟨⟨"root", some rowsetNs, "root", []⟩, .ofNodes (numbers.map fun n => .element (rowNumbered n))⟩

/-- A payload of such a result. -/
def numberedPayload (numbers : List String) : Element :=
  ⟨⟨"return", some xmlaNs, "return", []⟩, .ofNodes [.element (numberedRoot numbers)]⟩

theorem findChild?_numberedPayload (numbers : List String) :
  (numberedPayload numbers).findChild? rowsetNs "root" = some (numberedRoot numbers)
  := rfl

end OlapClient.Table
