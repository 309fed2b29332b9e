import Mathlib.Tactic.Common
import OlapClient.Proofs.Cube.Cells
import OlapClient.Proofs.Protocol.Envelope
import OlapClient.Proofs.Results
import OlapClient.Table.RowSet

/-!
# Absent values

A value is absent where there is no element to read it from, and nowhere else: no text is read as
the absent value, whatever its type.  `null_means_absent` says so of the rows of a tabular result
and of the cells of a multidimensional one, for each way to ask for a value.
-/

namespace OlapClient

open OlapClient.Markup
open OlapClient.Protocol
open OlapClient.Schema

variable {α : Type}

/-! ### Readings -/

/-- No text is read as the absent value. -/
theorem readValue_ne_null (type : SchemaType) (text : String) :
  readValue type text ≠ .ok .null
  := by
  intro read
  cases type <;> simp [readValue, map_eq_ok_iff] at read

theorem coerce_ne_null (text field : String) (type : SchemaType) :
  coerce text field type ≠ .ok .null
  := by
  rw [coerce, Ne, mapError_eq_ok_iff]
  apply readValue_ne_null

/-- An element has no child with a namespace and a local name. -/
def Lacks (e : Element) (ns localName : String) : Prop :=
  ∀ child, .element child ∈ e.content.nodes → child.is ns localName = false

theorem readField_eq_null_iff {e : Element} {ns name : String} {type : SchemaType} :
  readField e ns name type = .ok .null ↔ Lacks e ns name
  := by
  rw [Lacks, ← findChild?_eq_none_iff, readField, Element.childText?]
  cases e.findChild? ns name with
  | none => simp
  | some child => simp [coerce_ne_null]

/-! ### Getters -/

/-- A value is null exactly in a case, and getters that allow for that give nothing exactly in this
case; otherwise they give what the getter without it gives, its failures included.  The getter of a
target is `Value.decode`, and the one that allows for null is `Value.decodeOption`, which is
`Value.optional` of it. -/
structure NullExactlyIf (case : Prop) (value : Except Failure Value)
    (get : {α : Type} → (Value → Except Failure α) → Except Failure α) : Prop where
  value_iff : value = .ok .null ↔ case
  none_iff : ∀ {α : Type} (decode : Value → Except Failure α),
    get (Value.optional decode) = .ok none ↔ case
  some_of : ¬ case → ∀ {α : Type} (decode : Value → Except Failure α),
    get (Value.optional decode) = some <$> get decode

theorem Value.optional_of_ne_null (decode : Value → Except Failure α) {v : Value} (h : v ≠ .null) :
  v.optional decode = some <$> decode v
  := by
  cases v with
  | null => exact absurd rfl h
  | _ => rfl

theorem Value.optional_eq_none_iff {decode : Value → Except Failure α} {v : Value} :
  v.optional decode = .ok none ↔ v = .null
  := by
  by_cases h : v = .null
  · subst h
    simp [optional]
  · simp [optional_of_ne_null decode h, map_eq_ok_iff, h]

/-- A getter decodes the value that was read. -/
theorem nullExactlyIf_of_value {case : Prop} {value : Except Failure Value}
    (iff : value = .ok .null ↔ case) :
  NullExactlyIf case value fun decode => value >>= decode
  := by
  constructor
  case value_iff => apply iff
  case none_iff =>
    intro α decode
    rw [← iff, bind_eq_ok_iff]
    simp [Value.optional_eq_none_iff]
  case some_of =>
    intro present α decode
    cases value with
    | error failure => rfl
    | ok v =>
      have not_null : v ≠ .null := fun null => present (iff.mp (congrArg Except.ok null))
      apply Value.optional_of_ne_null decode not_null

/-- The row has a column with this ordinal and no field for it. -/
def Table.Row.LacksField (row : Table.Row) (ordinal : Nat) : Prop :=
  ∃ column, Table.columnAt row.columns ordinal = .ok column
    ∧ Lacks row.element rowsetNs column.name

/-- No cell was sent with this number, or the cell that was sent has no value. -/
def Cube.CellSet.LacksValue (s : Cube.CellSet) (ordinal : Nat) : Prop :=
  ∀ e, s.cells[ordinal]? = some e → Lacks e datasetNs "Value"

theorem Table.Row.value_eq_null_iff {row : Table.Row} {ordinal : Nat} :
  row.value ordinal = .ok .null ↔ row.LacksField ordinal
  := by
  rw [value, bind_eq_ok_iff, LacksField]
  simp only [valueIn, readField_eq_null_iff]

theorem Cube.Cell.value_eq_null_iff {cell : Cube.Cell} :
  cell.value = .ok .null ↔ ∀ e, cell.element = some e → Lacks e datasetNs "Value"
  := by
  rw [value]
  cases cell.element with
  | none => simp
  | some e => simp [readField_eq_null_iff]

theorem Cube.Cell.isNull_iff {cell : Cube.Cell} :
  cell.isNull ↔ ∀ e, cell.element = some e → Lacks e datasetNs "Value"
  := by
  rw [isNull, valueElement?]
  cases cell.element with
  | none => simp
  | some e => simp [findChild?_eq_none_iff, Lacks]

/-! ### Both kinds of results -/

/-- What is null is absent.  A row gives null for an ordinal exactly when it has no field for that
column, and a cell within the number of cells exactly when the provider sent no value for it,
whatever types are declared. -/
theorem null_means_absent :
  (∀ text field type, coerce text field type ≠ .ok .null)
    ∧ (∀ (row : Table.Row) (ordinal : Nat),
      NullExactlyIf (row.LacksField ordinal) (row.value ordinal) (row.get · ordinal))
    ∧ ∀ (s : Cube.CellSet) (count ordinal : Nat), s.cellCount = .ok count → ordinal < count →
      ∃ cell, s.cellAt ordinal = .ok cell ∧ (cell.isNull ↔ s.LacksValue ordinal)
        ∧ NullExactlyIf (s.LacksValue ordinal) cell.value cell.get
  := by
  refine ⟨coerce_ne_null, ?_, ?_⟩
  · intro row ordinal
    apply nullExactlyIf_of_value row.value_eq_null_iff
  · intro s count ordinal counted low
    let cell : Cube.Cell := ⟨ordinal, s.cells[ordinal]?⟩
    have value_iff : cell.value = .ok .null ↔ s.LacksValue ordinal := Cube.Cell.value_eq_null_iff
    use cell
    refine ⟨Cube.CellSet.cellAt_of_lt counted low, Cube.Cell.isNull_iff, ?_⟩
    apply nullExactlyIf_of_value value_iff

/-- An empty element is no absent value, whatever its type, and a text that cannot be read is none
either. -/
example :
    let cell (type : String) : Cube.Cell := ⟨0, some ⟨⟨"Cell", some datasetNs, "Cell", []⟩,
      .ofNodes [.element ⟨⟨"Value", some datasetNs, "Value",
        [⟨"xsi:type", some instanceNs, "type", type⟩]⟩, .nil⟩]⟩⟩
    (cell "unknown").isNull = false ∧ (cell "unknown").value = .ok (.string "")
      ∧ (cell "xsd:int").isNull = false
      ∧ (cell "xsd:int").value = .error (.coercion "Value" .int (.numeral .empty)) := by
  decide

end OlapClient
