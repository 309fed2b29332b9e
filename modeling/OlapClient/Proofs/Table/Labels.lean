import Mathlib.Data.List.Forall2
import Mathlib.Tactic.Common
import OlapClient.Proofs.Table.Declarations
import OlapClient.Proofs.Table.Rereading
import OlapClient.Proofs.Table.Values

/-!
# Labels and ordinals

A label is looked up for the ordinal that its column carries, and an ordinal is then taken for a
place among the columns.  The columns of a result are numbered from one, so both lead to the same
column: `labels_agree` says of a row set that a result was read into that reading by a label is
reading by the ordinal of the first column with that label, failures included, and says which labels
and which ordinals there are.
-/

namespace OlapClient.Table

open OlapClient.Markup
open OlapClient.Protocol

/-! ### The first entry of a kind -/

/-- An entry of a list is the first one that meets a condition. -/
def IsFirst {α : Type} (P : α → Prop) (l : List α) (a : α) : Prop :=
  P a ∧ ∃ before after, l = before ++ a :: after ∧ ∀ b ∈ before, ¬ P b

theorem find?_eq_some_iff_isFirst {α : Type} {p : α → Bool} {l : List α} {a : α} :
  l.find? p = some a ↔ IsFirst (p · = true) l a
  := by
  simp [IsFirst, List.find?_eq_some_iff_append]

theorem isFirst_congr
    {α : Type} {P Q : α → Prop} (same : ∀ a, P a ↔ Q a) {l : List α} {a : α} :
  IsFirst P l a ↔ IsFirst Q l a
  := by
  simp only [IsFirst, same]

/-! ### What a declaration says -/

/-- An attribute is the one that labels a column, by its namespace. -/
def IsLabelling (a : Attribute) : Prop :=
  a.ns = some sqlNs ∧ a.localName = "field"

/-- What the column of a declaration is called in queries. -/
inductive LabelOf (declaration : Element) : String → Prop where
  | inNamespace {a : Attribute} (first : IsFirst IsLabelling declaration.tag.attributes a) :
      LabelOf declaration a.value
  /-- Without such an attribute, one that is written as if it were one. -/
  | asWritten {a : Attribute} (none : ∀ b ∈ declaration.tag.attributes, ¬ IsLabelling b)
      (first : IsFirst (·.qname = "sql:field") declaration.tag.attributes a) :
      LabelOf declaration a.value
  /-- Without either, the name. -/
  | name (none : ∀ b ∈ declaration.tag.attributes, ¬ IsLabelling b)
      (unwritten : ∀ b ∈ declaration.tag.attributes, b.qname ≠ "sql:field") :
      LabelOf declaration (declaration.valueOf "name")

theorem labelOf_ofDeclaration (ordinal : Nat) (declaration : Element) :
  LabelOf declaration (Column.ofDeclaration ordinal declaration).label
  := by
  have labelling (a : Attribute) :
      (a.localName == "field" && a.ns == some sqlNs) = true ↔ IsLabelling a := by
    simp [IsLabelling, and_comm]
  simp only [Column.ofDeclaration, Element.valueOfNs?, Tag.valueOfNs?, Element.valueOf?,
    Tag.valueOf?]
  cases found : declaration.tag.attributes.find?
      fun a => a.localName == "field" && a.ns == some sqlNs with
  | some a =>
    rw [find?_eq_some_iff_isFirst, isFirst_congr labelling] at found
    apply LabelOf.inNamespace found
  | none =>
    have none : ∀ b ∈ declaration.tag.attributes, ¬ IsLabelling b := by
      intro b mem
      rw [← labelling]
      apply List.find?_eq_none.mp found b mem
    cases written : declaration.tag.attributes.find? (·.qname == "sql:field") with
    | some a =>
      rw [find?_eq_some_iff_isFirst, isFirst_congr fun _ => beq_iff_eq] at written
      apply LabelOf.asWritten none written
    | none =>
      apply LabelOf.name none
      intro b mem same
      apply List.find?_eq_none.mp written b mem
      apply beq_iff_eq.mpr same

/-- A column has the name and the label of a declaration. -/
structure Describes (declaration : Element) (column : Column) : Prop where
  name : column.name = declaration.valueOf "name"
  label : LabelOf declaration column.label

theorem describes_columnsFrom (ordinal : Nat) (elements : List Element) :
  List.Forall₂ Describes elements (columnsFrom ordinal elements)
  := by
  induction elements generalizing ordinal with
  | nil => apply List.Forall₂.nil
  | cons declaration rest ih =>
    rw [columnsFrom]
    apply List.Forall₂.cons _ (ih (ordinal + 1))
    exact ⟨rfl, labelOf_ofDeclaration ordinal declaration⟩

/-! ### Numbered columns -/

/-- Columns are numbered from one. -/
def Numbered (columns : List Column) : Prop :=
  ∀ i column, columns[i]? = some column → column.ordinal = i + 1

theorem numbered_readColumns (root : Element) :
  Numbered (readColumns root)
  := by
  intro i column found
  rw [readColumns_eq_columnsFrom, getElem?_columnsFrom, Option.map_eq_some_iff] at found
  obtain ⟨declaration, -, rfl⟩ := found
  rfl

variable {columns : List Column} {label : String} {column : Column}

theorem findColumn_of_isFirst (first : IsFirst (·.label = label) columns column) :
  findColumn columns label = .ok column.ordinal
  := by
  have found : columns.find? (·.label == label) = some column := by
    rw [find?_eq_some_iff_isFirst, isFirst_congr fun _ => beq_iff_eq]
    apply first
  rw [findColumn, found]

theorem findColumn_of_unlabelled (none : ∀ column ∈ columns, column.label ≠ label) :
  findColumn columns label = .error (.badUsage (.columnLabel label))
  := by
  have found : columns.find? (·.label == label) = Option.none := by
    simpa using none
  rw [findColumn, found]

/-- A label is found where a column has it, and the first one that has it is found. -/
theorem exists_isFirst (mem : ∃ column ∈ columns, column.label = label) :
  ∃ column, IsFirst (·.label = label) columns column
  := by
  obtain ⟨column, mem, labelled⟩ := mem
  have some_found : (columns.find? (·.label == label)).isSome := by
    rw [List.find?_isSome]
    exact ⟨column, mem, beq_iff_eq.mpr labelled⟩
  obtain ⟨first, found⟩ := Option.isSome_iff_exists.mp some_found
  use first
  rw [find?_eq_some_iff_isFirst, isFirst_congr fun _ => beq_iff_eq] at found
  apply found

/-- The ordinal that a column carries leads back to it. -/
theorem columnAt_of_isFirst
    (numbered : Numbered columns) (first : IsFirst (·.label = label) columns column) :
  columnAt columns column.ordinal = .ok column
  := by
  obtain ⟨-, before, after, rfl, -⟩ := first
  have place : (before ++ column :: after)[before.length]? = some column := by simp
  rw [numbered _ _ place, columnAt, if_neg (Nat.succ_ne_zero _), Nat.add_sub_cancel, place]

theorem columnAt_of_outside {k : Nat} (outside : k = 0 ∨ columns.length < k) :
  columnAt columns k = .error (.badUsage (.columnOrdinal k))
  := by
  by_cases zero : k = 0
  · rw [columnAt, if_pos zero]
  · have beyond : columns[k - 1]? = none := by
      rw [List.getElem?_eq_none_iff]
      omega
    rw [columnAt, if_neg zero, beyond]

theorem findColumn_eq_ok_iff {k : Nat} :
  findColumn columns label = .ok k
    ↔ ∃ column, IsFirst (·.label = label) columns column ∧ column.ordinal = k
  := by
  constructor
  · intro found
    by_cases labelled : ∃ column ∈ columns, column.label = label
    · obtain ⟨column, first⟩ := exists_isFirst labelled
      rw [findColumn_of_isFirst first] at found
      use column, first, Except.ok.inj found
    · rw [findColumn_of_unlabelled (by simpa using labelled)] at found
      cases found
  · rintro ⟨column, first, rfl⟩
    apply findColumn_of_isFirst first

/-! ### Rows -/

namespace Row

/-- Reading by a label is reading by an ordinal, failures included. -/
structure Alike (row : Row) (label : String) (k : Nat) : Prop where
  value : row.valueByLabel label = row.value k
  get : ∀ {α : Type} (decode : Value → Except Failure α),
    row.getByLabel decode label = row.get decode k

variable {row : Row} {k : Nat} {failure : Failure}

theorem alike_of_findColumn (found : findColumn row.columns label = .ok k) :
  row.Alike label k
  := by
  have value : row.valueByLabel label = row.value k := by
    rw [valueByLabel, found]
    rfl
  use value
  intro α decode
  rw [getByLabel, get, value]

theorem value_of_columnAt (found : columnAt row.columns k = .ok column) :
  row.value k = row.valueIn column
  := by
  rw [value, found]
  rfl

/-- Reading by a label fails so, whatever the value is decoded as. -/
structure RefusesLabel (row : Row) (label : String) (failure : Failure) : Prop where
  value : row.valueByLabel label = .error failure
  get : ∀ {α : Type} (decode : Value → Except Failure α),
    row.getByLabel decode label = .error failure

theorem refusesLabel_of_findColumn (fails : findColumn row.columns label = .error failure) :
  row.RefusesLabel label failure
  := by
  have value : row.valueByLabel label = .error failure := by
    rw [valueByLabel, fails]
    rfl
  use value
  intro α decode
  rw [getByLabel, value]
  rfl

/-- Reading by an ordinal fails so, whatever the value is decoded as. -/
structure RefusesOrdinal (row : Row) (k : Nat) (failure : Failure) : Prop where
  value : row.value k = .error failure
  get : ∀ {α : Type} (decode : Value → Except Failure α), row.get decode k = .error failure

theorem refusesOrdinal_of_columnAt (fails : columnAt row.columns k = .error failure) :
  row.RefusesOrdinal k failure
  := by
  have value : row.value k = .error failure := by
    rw [Row.value, fails]
    rfl
  use value
  intro α decode
  rw [get, value]
  rfl

end Row

/-! ### Row sets -/

/-- The labels and the ordinals of the columns of a row set agree. -/
structure RowSet.Labelled (s : RowSet) : Prop where
  numbered : Numbered s.columns
  /-- A label leads to an ordinal exactly when a column has it, -/
  found_iff : ∀ label, (∃ k, findColumn s.columns label = .ok k)
    ↔ ∃ column ∈ s.columns, column.label = label
  /-- to that of the first such column, -/
  first_iff : ∀ label k, findColumn s.columns label = .ok k
    ↔ ∃ column, IsFirst (·.label = label) s.columns column ∧ column.ordinal = k
  /-- which leads back to it. -/
  led : ∀ label column, IsFirst (·.label = label) s.columns column →
    columnAt s.columns column.ordinal = .ok column
      ∧ ∀ row ∈ s.allRows, row.value column.ordinal = row.valueIn column
  /-- Reading any row by the label is reading it by that ordinal, -/
  alike : ∀ label k, findColumn s.columns label = .ok k → ∀ row ∈ s.allRows, row.Alike label k
  /-- and so is reading the row under the cursor, if there is one. -/
  current : ∀ label k, findColumn s.columns label = .ok k →
    s.valueByLabel label = s.value k
      ∧ ∀ {α : Type} (decode : Value → Except Failure α), s.getByLabel decode label = s.get decode k
  /-- Labels that no column has and ordinals that no column has are refused. -/
  unlabelled : ∀ label, (∀ column ∈ s.columns, column.label ≠ label) →
    findColumn s.columns label = .error (.badUsage (.columnLabel label))
      ∧ ∀ row ∈ s.allRows, row.RefusesLabel label (.badUsage (.columnLabel label))
  outside : ∀ k, k = 0 ∨ s.columns.length < k →
    columnAt s.columns k = .error (.badUsage (.columnOrdinal k))
      ∧ ∀ row ∈ s.allRows, row.RefusesOrdinal k (.badUsage (.columnOrdinal k))

theorem RowSet.columns_of_current {s : RowSet} {row : Row} (here : s.current = .ok row) :
  row.columns = s.columns
  := by
  obtain ⟨i, -, stored⟩ := bind_eq_ok_iff.mp here
  split at stored
  · cases stored
    rfl
  · cases stored

theorem RowSet.current_alike
    {s : RowSet} {k : Nat} (found : findColumn s.columns label = .ok k) :
  s.valueByLabel label = s.value k
    ∧ ∀ {α : Type} (decode : Value → Except Failure α), s.getByLabel decode label = s.get decode k
  := by
  rw [valueByLabel, value]
  simp only [getByLabel, get]
  cases here : s.current with
  | error failure => exact ⟨rfl, fun _ => rfl⟩
  | ok row =>
    rw [← columns_of_current here] at found
    have alike := Row.alike_of_findColumn found
    exact ⟨alike.value, alike.get⟩

theorem RowSet.labelled_of_numbered {s : RowSet} (numbered : Numbered s.columns) :
  s.Labelled
  := by
  constructor
  case numbered => apply numbered
  case found_iff =>
    intro label
    simp only [findColumn_eq_ok_iff]
    constructor
    · rintro ⟨k, column, ⟨labelled, before, after, all, -⟩, -⟩
      use column
      rw [all]
      exact ⟨List.mem_append_cons_self, labelled⟩
    · intro labelled
      obtain ⟨column, first⟩ := exists_isFirst labelled
      exact ⟨column.ordinal, column, first, rfl⟩
  case first_iff =>
    intro label k
    apply findColumn_eq_ok_iff
  case led =>
    intro label column first
    have back := columnAt_of_isFirst numbered first
    use back
    intro row mem
    apply Row.value_of_columnAt
    rw [columns_of_mem_allRows mem]
    apply back
  case alike =>
    intro label k found row mem
    apply Row.alike_of_findColumn
    rw [columns_of_mem_allRows mem]
    apply found
  case current =>
    intro label k found
    apply current_alike found
  case unlabelled =>
    intro label none
    have fails := findColumn_of_unlabelled none
    use fails
    intro row mem
    apply Row.refusesLabel_of_findColumn
    rw [columns_of_mem_allRows mem]
    apply fails
  case outside =>
    intro k outside
    have fails := columnAt_of_outside outside
    use fails
    intro row mem
    apply Row.refusesOrdinal_of_columnAt
    rw [columns_of_mem_allRows mem]
    apply fails

/-! ### Results -/

/-- The result of a payload was read into a row set, for all of its rows or for the first one. -/
inductive LoadedFrom (payload : Element) : RowSet → Prop where
  | rows {held loaded : RowSet}
      (read : (readRowSet collecting payload).outcome held = (.ok (), loaded)) :
      LoadedFrom payload loaded
  | first {held loaded : FirstRow RowSet}
      (read : (readRowSet (firstRow collecting) payload).outcome held = (.ok (), loaded)) :
      LoadedFrom payload loaded.inner

theorem LoadedFrom.exists_root {payload : Element} {s : RowSet} (loaded : LoadedFrom payload s) :
  ∃ root, payload.findChild? rowsetNs "root" = some root ∧ s.columns = readColumns root
  := by
  cases found : payload.findChild? rowsetNs "root" with
  | none =>
    cases loaded with
    | rows read | first read =>
      rw [outcome_readRowSet_of_none found] at read
      cases read
  | some root =>
    use root, rfl
    cases loaded with
    | rows read =>
      rw [outcome_readRowSet_collecting found] at read
      cases read
      rfl
    | first read =>
      rw [outcome_readRowSet_firstRow found] at read
      cases read
      rfl

/-- A row set that a result was read into has the columns that the declarations of the result
describe, in their order, and wherever its cursor is moved, its labels and its ordinals agree. -/
theorem labels_agree
    {payload : Element} {s : RowSet} (loaded : LoadedFrom payload s) (moves : List Move) :
  (s.final moves).Labelled
    ∧ ∃ root, payload.findChild? rowsetNs "root" = some root
      ∧ List.Forall₂ Describes ((declarations root).map Nested.element) (s.final moves).columns
  := by
  obtain ⟨root, found, columns⟩ := loaded.exists_root
  have kept : (s.final moves).columns = readColumns root := by
    rw [RowSet.final_eq, columns]
  constructor
  · apply RowSet.labelled_of_numbered
    rw [kept]
    apply numbered_readColumns
  · use root, found
    rw [kept, readColumns_eq_columnsFrom]
    apply describes_columnsFrom

/-- The declaration of a field with a label of its own. -/
def declareAs (name label : String) : Element :=
  schemaPart "element" [⟨"name", none, "name", name⟩, ⟨"sql:field", some sqlNs, "field", label⟩] []

/-- A payload of two rows whose columns share a label, which is the name of another column. -/
def twins : Element :=
  ⟨⟨"return", some xmlaNs, "return", []⟩, .ofNodes [.element (rootDeclaring
    [declareAs "x" "y", declareAs "a" "x", declareAs "b" "x"] [rowWith "x" "1", rowWith "a" "2"])]⟩

/-- What is read of `twins`. -/
def twinsRead : RowSet :=
  .ofRows [⟨1, "x", "y", .string⟩, ⟨2, "a", "x", .string⟩, ⟨3, "b", "x", .string⟩]
    [rowWith "x" "1", rowWith "a" "2"]

/-- The label leads to the second column, also in the row under the cursor. -/
theorem labels_agree_twins :
  (readRowSet collecting twins).outcome .empty = (.ok (), twinsRead)
    ∧ (twinsRead.final [.last]).Labelled
    ∧ (twinsRead.final [.last]).valueByLabel "x" = (twinsRead.final [.last]).value 2
    ∧ (twinsRead.final [.last]).value 2 = .ok (.string "2")
  := by
  have read : (readRowSet collecting twins).outcome .empty = (.ok (), twinsRead) := by rfl
  have found : findColumn (twinsRead.final [.last]).columns "x" = .ok 2 := by rfl
  have labelled := (labels_agree (.rows read) [.last]).1
  exact ⟨read, labelled, (labelled.current "x" 2 found).1, by rfl⟩

end OlapClient.Table
