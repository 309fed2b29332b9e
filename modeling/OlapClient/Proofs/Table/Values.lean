import Mathlib.Data.List.Forall2
import Mathlib.Tactic.Common
import OlapClient.Proofs.Results
import OlapClient.Table.RowSet

/-!
# The values of a row

The values of a row are read column by column, one value for each, and the first text that stands
for no value of its type ends the reading.  `values_eq_ok_iff` and `values_eq_error_iff` say when
the reading gives values and when it fails.
-/

namespace OlapClient.Table

open OlapClient.Markup
open OlapClient.Protocol

namespace Row

variable {row : Row}

/-- A row has these values in these columns, one in each. -/
def Reads (row : Row) (columns : List Column) (values : List Value) : Prop :=
  List.Forall₂ (fun column value => row.valueIn column = .ok value) columns values

/-- The failure of a row with a text that stands for no value of the type of its column, where the
columns before have values. -/
inductive IllTyped (row : Row) : Failure → Prop where
  | inColumn {before after : List Column} {column : Column} {values : List Value} {text : String}
      {fault : CoercionFault} (columns : row.columns = before ++ column :: after)
      (earlier : row.Reads before values)
      (field : row.element.childText? rowsetNs column.name = some text)
      (refused : readValue column.type text = .error fault) :
      IllTyped row (.coercion column.name column.type fault)

theorem valueIn_eq_error_iff {column : Column} {failure : Failure} :
  row.valueIn column = .error failure
    ↔ ∃ text fault, row.element.childText? rowsetNs column.name = some text
      ∧ readValue column.type text = .error fault
      ∧ failure = .coercion column.name column.type fault
  := by
  rw [valueIn, readField]
  cases row.element.childText? rowsetNs column.name with
  | none => simp
  | some text =>
    cases read : readValue column.type text <;>
      simp [coerce, read, Except.mapError, eq_comm]

theorem values_eq_ok_iff {values : List Value} :
  row.values = .ok values ↔ row.Reads row.columns values
  := by apply mapM_eq_ok_iff

theorem values_eq_error_iff {failure : Failure} :
  row.values = .error failure ↔ row.IllTyped failure
  := by
  rw [values, mapM_eq_error_iff]
  constructor
  · rintro ⟨before, column, after, values, columns, earlier, failed⟩
    obtain ⟨text, fault, field, refused, rfl⟩ := valueIn_eq_error_iff.mp failed
    apply IllTyped.inColumn columns earlier field refused
  · rintro ⟨columns, earlier, field, refused⟩
    exact ⟨_, _, _, _, columns, earlier, valueIn_eq_error_iff.mpr ⟨_, _, field, refused, rfl⟩⟩

end Row

theorem RowSet.columns_of_mem_allRows {s : RowSet} {row : Row} (mem : row ∈ s.allRows) :
  row.columns = s.columns
  := by
  obtain ⟨element, -, rfl⟩ := List.mem_map.mp mem
  rfl

/-- A row with a field. -/
def rowWith (name text : String) : Element :=
  ⟨⟨"row", some rowsetNs, "row", []⟩,
    .ofNodes [.element ⟨⟨name, some rowsetNs, name, []⟩, .ofNodes [.text text]⟩]⟩

end OlapClient.Table
