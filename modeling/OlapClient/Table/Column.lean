import OlapClient.Failure
import OlapClient.Markup.Element
import OlapClient.Protocol.Vocabulary
import OlapClient.Schema.Type

/-!
# Columns of a tabular result

A tabular result carries a schema whose complex type named `row` declares the fields of a
row.  Each declaration is a column: its name is the name of the field's element, and its label
is what the column is called in queries.
-/

namespace OlapClient.Table

open OlapClient.Markup
open OlapClient.Protocol
open OlapClient.Schema

/-- A column of a tabular result. -/
structure Column where
  /-- The place among the columns, counted from one. -/
  ordinal : Nat
  /-- The local name of the field's element. -/
  name : String
  label : String
  type : SchemaType
  deriving DecidableEq, Repr

/-- The column that a declaration of a schema describes.  Its label is the attribute `field`
of the namespace of labels, failing that the attribute written `sql:field`, and failing that
its name. -/
def Column.ofDeclaration (ordinal : Nat) (declaration : Element) : Column :=
  let name := declaration.valueOf "name"
  let label := ((declaration.valueOfNs? sqlNs "field").or
    (declaration.valueOf? "sql:field")).getD name
  ⟨ordinal, name, label, .ofName (declaration.valueOf "type")⟩

/-- Columns of declarations in order, numbered from an ordinal on. -/
def columnsFrom (ordinal : Nat) : List Element → List Column
  | [] => []
  | declaration :: rest => .ofDeclaration ordinal declaration :: columnsFrom (ordinal + 1) rest

theorem columnsFrom_eq_mapIdx (ordinal : Nat) (declarations : List Element) :
  columnsFrom ordinal declarations
    = declarations.mapIdx fun i declaration => .ofDeclaration (ordinal + i) declaration
  := by
  induction declarations generalizing ordinal with
  | nil => rfl
  | cons declaration rest ih =>
    rw [columnsFrom, ih, List.mapIdx_cons]
    simp only [Nat.add_zero, Nat.add_assoc, Nat.add_comm 1]

/-- The complex type that declares the fields of a row: the first one named `row`. -/
def rowType? (root : Element) : Option Element :=
  (root.findDescendants schemaNs "complexType").find? (·.valueOf? "name" == some "row")

/-- The columns that the schema of a result declares; none where there is no schema. -/
def readColumns (root : Element) : List Column :=
  match rowType? root with
  | some rowType => columnsFrom 1 (rowType.findDescendants schemaNs "element")
  | none => []

/-- The column with an ordinal. -/
def columnAt (columns : List Column) (ordinal : Nat) : Except Failure Column :=
  match if ordinal = 0 then none else columns[ordinal - 1]? with
  | some column => .ok column
  | none => .error (.badUsage (.columnOrdinal ordinal))

/-- The ordinal of the first column with a label. -/
def findColumn (columns : List Column) (label : String) : Except Failure Nat :=
  match columns.find? (·.label == label) with
  | some column => .ok column.ordinal
  | none => .error (.badUsage (.columnLabel label))

end OlapClient.Table
