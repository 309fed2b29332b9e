import OlapClient.Handling
import OlapClient.Markup.Element
import OlapClient.Protocol.Vocabulary
import OlapClient.Table.Column

/-!
# Reading a tabular result

`readRowSet` passes the columns of a tabular result and then its rows to a handler.  A
handler is a record of actions on a state of its own.  The read ends at the first action that
fails, with the failure of that action and the state it left.  `counting` counts what it is
given, and `firstRow` hands on the columns and one row only.
-/

namespace OlapClient.Table

open OlapClient.Markup
open OlapClient.Protocol

/-- A receiver of the columns and the rows of a tabular result. -/
structure RowHandler (σ : Type) where
  onColumns : List Column → Handling σ Unit
  onRow : List Column → Element → Handling σ Unit
  onFinish : Handling σ Unit

/-- The rows of a tabular result: the children of its root with the local name `row`. -/
def rowElements (root : Element) : List Element :=
  root.children.filter (·.tag.localName == "row")

/-- Passes the parts of a tabular result to a handler: the columns once, each row in document
order, and the end once. -/
def readRoot {σ : Type} (handler : RowHandler σ) (root : Element) : Handling σ Unit := do
  let columns := readColumns root
  handler.onColumns columns
  (rowElements root).forM (handler.onRow columns)
  handler.onFinish

/-- Passes the tabular result within a `return` element to a handler. -/
def readRowSet {σ : Type} (handler : RowHandler σ) (payload : Element) : Handling σ Unit :=
  match payload.findChild? rowsetNs "root" with
  | some root => readRoot handler root
  | none => throw (.malformed .noRowsetRoot)

/-! ### Counting -/

/-- The number of columns and rows that were received. -/
structure Count where
  columns : Nat
  rows : Nat
  deriving DecidableEq, Repr

/-- Nothing received yet. -/
def Count.zero : Count :=
  ⟨0, 0⟩

/-- A handler that counts columns and rows and keeps neither. -/
def counting : RowHandler Count where
  onColumns columns := set (Count.mk columns.length 0)
  onRow _ _ := modify fun count => ⟨count.columns, count.rows + 1⟩
  onFinish := pure ()

/-! ### The first row only -/

/-- The state of another handler, and whether a row has been handed on to it. -/
structure FirstRow (σ : Type) where
  inner : σ
  found : Bool
  deriving DecidableEq, Repr

/-- An action on the inner state. -/
def FirstRow.within {σ : Type} (action : Handling σ Unit) : Handling (FirstRow σ) Unit :=
  onPart FirstRow.inner (fun s inner => ⟨inner, s.found⟩) action

/-- A handler that hands on the columns, the first row it is ever given and the end. -/
def firstRow {σ : Type} (handler : RowHandler σ) : RowHandler (FirstRow σ) where
  onColumns columns := FirstRow.within (handler.onColumns columns)
  onRow columns row := do
    if (← get).found then pure ()
    else
      modify fun s => ⟨s.inner, true⟩
      FirstRow.within (handler.onRow columns row)
  onFinish := FirstRow.within handler.onFinish

end OlapClient.Table
