import Mathlib.Logic.Relation
import Mathlib.Tactic.Common
import OlapClient.Proofs.Protocol.Envelope
import OlapClient.Proofs.Table.Labels

/-!
# Fields on their own

The children of a row are the fields of its columns among texts, elements of other namespaces and
fields that no column reads.  A column reads the first field with its name.  `values_isolated` says
that its value is a matter of that field alone, whatever is done to the other children of the row,
and that the values of a row are read one by one, up to the first that fails.
-/

namespace OlapClient.Table

open OlapClient.Markup
open OlapClient.Protocol

/-! ### Edits that leave a field alone -/

/-- A child of a row is a field with a name. -/
def IsField (name : String) (n : Node) : Prop :=
  ∃ e, n = .element e ∧ e.is rowsetNs name

/-- A child that comes right after some others is not the first field with a name: it is no such
field, or one comes before it. -/
def IsOther (name : String) (before : List Node) (n : Node) : Prop :=
  IsField name n → ∃ m ∈ before, IsField name m

/-- One edit of the children of a row that leaves the first field with a name where it is among the
fields with that name. -/
inductive Edit (name : String) : List Node → List Node → Prop where
  | insert {before after : List Node} {n : Node} (other : IsOther name before n) :
      Edit name (before ++ after) (before ++ n :: after)
  | delete {before after : List Node} {n : Node} (other : IsOther name before n) :
      Edit name (before ++ n :: after) (before ++ after)
  | alter {before after : List Node} {n n' : Node} (other : IsOther name before n)
      (other' : IsOther name before n') :
      Edit name (before ++ n :: after) (before ++ n' :: after)
  /-- Neighbours change places; one of them may be the field itself. -/
  | reorder {before after : List Node} {n n' : Node}
      (other : IsOther name before n ∨ IsOther name before n') :
      Edit name (before ++ n :: n' :: after) (before ++ n' :: n :: after)

/-- A row comes from another by edits, one after the other, that leave a field alone. -/
def EditedTo (name : String) (e e' : Element) : Prop :=
  Relation.ReflTransGen (Edit name) e.content.nodes e'.content.nodes

/-- Two rows have the same first field with a name, or both have none. -/
def ShareField (name : String) (e e' : Element) : Prop :=
  ∀ field, IsFirstChild rowsetNs name e field ↔ IsFirstChild rowsetNs name e' field

/-- The first field with a name among children. -/
def firstField? (name : String) (nodes : List Node) : Option Element :=
  (nodes.filterMap elementOf?).find? (·.is rowsetNs name)

theorem findChild?_eq_firstField? (name : String) (e : Element) :
  e.findChild? rowsetNs name = firstField? name e.content.nodes
  := by rw [Element.findChild?, Element.children, children_eq_filterMap, firstField?]

theorem firstField?_append (name : String) (before after : List Node) :
  firstField? name (before ++ after) = (firstField? name before).or (firstField? name after)
  := by rw [firstField?, List.filterMap_append, List.find?_append, firstField?, firstField?]

theorem firstField?_cons_of_not_isField
    {name : String} {n : Node} (none : ¬ IsField name n) (after : List Node) :
  firstField? name (n :: after) = firstField? name after
  := by
  cases n with
  | text s => rfl
  | element e =>
    have stranger : e.is rowsetNs name = false := by
      rw [Bool.eq_false_iff]
      intro named
      apply none ⟨e, rfl, named⟩
    simp [firstField?, elementOf?, stranger]

theorem isSome_firstField? {name : String} {nodes : List Node} (has : ∃ n ∈ nodes, IsField name n) :
  (firstField? name nodes).isSome
  := by
  obtain ⟨n, mem, e, rfl, named⟩ := has
  rw [firstField?, List.find?_isSome]
  exact ⟨e, List.mem_filterMap.mpr ⟨.element e, mem, rfl⟩, named⟩

/-- A child that is not the first field may be there or not. -/
theorem IsOther.firstField?_eq {name : String} {before : List Node} {n : Node}
    (other : IsOther name before n) (after : List Node) :
  firstField? name (before ++ n :: after) = firstField? name (before ++ after)
  := by
  rw [firstField?_append, firstField?_append]
  by_cases field : IsField name n
  · obtain ⟨first, found⟩ := Option.isSome_iff_exists.mp (isSome_firstField? (other field))
    rw [found, Option.some_or, Option.some_or]
  · rw [firstField?_cons_of_not_isField field]

theorem IsOther.concat {name : String} {before : List Node} {n : Node}
    (other : IsOther name before n) (n' : Node) :
  IsOther name (before ++ [n']) n
  := by
  intro field
  obtain ⟨m, mem, named⟩ := other field
  exact ⟨m, List.mem_append_left [n'] mem, named⟩

/-- A child that is not the first field may come before the next one or after it. -/
theorem IsOther.firstField?_swap {name : String} {before : List Node} {n : Node}
    (other : IsOther name before n) (n' : Node) (after : List Node) :
  firstField? name (before ++ n :: n' :: after) = firstField? name (before ++ n' :: n :: after)
  := by
  have behind := (other.concat n').firstField?_eq after
  rw [List.append_assoc, List.append_assoc, List.singleton_append, List.singleton_append] at behind
  rw [other.firstField?_eq, behind]

theorem Edit.firstField?_eq {name : String} {nodes nodes' : List Node}
    (edit : Edit name nodes nodes') :
  firstField? name nodes = firstField? name nodes'
  := by
  cases edit with
  | insert other => rw [other.firstField?_eq]
  | delete other => rw [other.firstField?_eq]
  | alter other other' => rw [other.firstField?_eq, other'.firstField?_eq]
  | reorder other =>
    obtain other | other := other
    · rw [other.firstField?_swap]
    · rw [other.firstField?_swap]

theorem ShareField.findChild?_eq {name : String} {e e' : Element} (share : ShareField name e e') :
  e.findChild? rowsetNs name = e'.findChild? rowsetNs name
  := by
  rw [Option.ext_iff]
  intro field
  rw [findChild?_eq_some_iff, findChild?_eq_some_iff]
  apply share field

theorem firstField?_eq_of_edits {name : String} {nodes nodes' : List Node}
    (edits : Relation.ReflTransGen (Edit name) nodes nodes') :
  firstField? name nodes = firstField? name nodes'
  := by
  induction edits with
  | refl => rfl
  | tail _ edit ih => rw [ih, edit.firstField?_eq]

theorem EditedTo.shareField {name : String} {e e' : Element} (edited : EditedTo name e e') :
  ShareField name e e'
  := by
  intro field
  rw [← findChild?_eq_some_iff, ← findChild?_eq_some_iff, findChild?_eq_firstField?,
    findChild?_eq_firstField?, firstField?_eq_of_edits edited]

/-- Every edit can be undone. -/
instance (name : String) : Std.Symm (Edit name) where
  symm nodes nodes' edit := by
    cases edit with
    | insert other => apply Edit.delete other
    | delete other => apply Edit.insert other
    | alter other other' => apply Edit.alter other' other
    | reorder other => apply Edit.reorder other.symm

/-- What comes before the first field can be taken away, -/
theorem edits_before {name : String} {before : List Node} (none : ∀ n ∈ before, ¬ IsField name n)
    (after : List Node) :
  Relation.ReflTransGen (Edit name) (before ++ after) after
  := by
  induction before with
  | nil => apply Relation.ReflTransGen.refl
  | cons n before ih =>
    rw [List.forall_mem_cons] at none
    have other : IsOther name [] n := fun field => absurd field none.1
    apply Relation.ReflTransGen.head (Edit.delete other) (ih none.2)

/-- and so can what comes after it. -/
theorem edits_after {name : String} {n : Node} (field : IsField name n) (after : List Node) :
  Relation.ReflTransGen (Edit name) (n :: after) [n]
  := by
  induction after with
  | nil => apply Relation.ReflTransGen.refl
  | cons n' after ih =>
    have other : IsOther name [n] n' := fun _ => ⟨n, List.mem_singleton_self n, field⟩
    apply Relation.ReflTransGen.head (Edit.delete other) ih

theorem edits_to_firstField? (name : String) (e : Element) :
  Relation.ReflTransGen (Edit name) e.content.nodes
    ((e.findChild? rowsetNs name).toList.map .element)
  := by
  cases found : e.findChild? rowsetNs name with
  | none =>
    have none : ∀ n ∈ e.content.nodes, ¬ IsField name n := by
      rintro n mem ⟨child, rfl, named⟩
      rw [findChild?_eq_none_iff.mp found child mem] at named
      cases named
    have edits := edits_before none []
    rw [List.append_nil] at edits
    apply edits
  | some field =>
    obtain ⟨before, after, split, named, none⟩ := findChild?_eq_some_iff.mp found
    have others : ∀ n ∈ before, ¬ IsField name n := by
      rintro n mem ⟨child, rfl, named⟩
      rw [none child mem] at named
      cases named
    rw [split]
    apply Relation.ReflTransGen.trans (edits_before others _)
    apply edits_after ⟨field, rfl, named⟩

/-- Edits lead from a row to exactly the rows that share the field with it. -/
theorem editedTo_iff {name : String} {e e' : Element} :
  EditedTo name e e' ↔ ShareField name e e'
  := by
  constructor
  · apply EditedTo.shareField
  · intro share
    have there := edits_to_firstField? name e
    have back := edits_to_firstField? name e'
    rw [← share.findChild?_eq] at back
    apply there.trans (Relation.ReflTransGen.stdSymm.symm _ _ back)

/-! ### One value -/

namespace Row

theorem valueIn_congr {row row' : Row} {column column' : Column} (name : column'.name = column.name)
    (type : column'.type = column.type)
    (share : ShareField column.name row.element row'.element) :
  row'.valueIn column' = row.valueIn column
  := by
  rw [valueIn, valueIn, readField, readField, Element.childText?, Element.childText?, name, type,
    share.findChild?_eq]

/-! ### All values -/

theorem columnAt_succ {columns : List Column} {column : Column} {i : Nat}
    (place : columns[i]? = some column) :
  columnAt columns (i + 1) = .ok column
  := by rw [columnAt, if_neg (Nat.succ_ne_zero i), Nat.add_sub_cancel, place]

/-- Entries are read as what is read at their places, counted from a number on. -/
theorem mapM_eq_mapM_range'
    {α β : Type} {f : α → Except Failure β} {g : Nat → Except Failure β} {l : List α} {k : Nat}
    (each : ∀ i a, l[i]? = some a → g (k + i) = f a) :
  l.mapM f = (List.range' k l.length).mapM g
  := by
  induction l generalizing k with
  | nil => rfl
  | cons a l ih =>
    have first : g k = f a := each 0 a rfl
    have rest : l.mapM f = (List.range' (k + 1) l.length).mapM g := by
      apply ih
      intro i b place
      rw [Nat.add_assoc, Nat.add_comm 1]
      apply each (i + 1) b place
    rw [List.mapM_cons, List.length_cons, List.range'_succ, List.mapM_cons, first, rest]

/-- The values of a row are those of its ordinals in turn. -/
theorem values_eq (row : Row) :
  row.values = (List.range' 1 row.columns.length).mapM row.value
  := by
  apply mapM_eq_mapM_range'
  intro i column place
  rw [Nat.add_comm]
  apply value_of_columnAt (columnAt_succ place)

/-- A number is an ordinal of a column. -/
def HasOrdinal (row : Row) (k : Nat) : Prop :=
  1 ≤ k ∧ k ≤ row.columns.length

theorem exists_values_iff {row : Row} :
  (∃ values, row.values = .ok values) ↔ ∀ k, row.HasOrdinal k → ∃ value, row.value k = .ok value
  := by
  rw [values_eq, exists_mapM_eq_ok_iff]
  simp only [List.mem_range'_1, HasOrdinal, Nat.add_comm 1, Nat.lt_succ_iff]

/-- The values of a row are read by their ordinals, up to the first one that fails. -/
theorem values_eq_error_iff_value {row : Row} {failure : Failure} :
  row.values = .error failure ↔ ∃ k, row.HasOrdinal k ∧ row.value k = .error failure
    ∧ ∀ j, 1 ≤ j → j < k → ∃ value, row.value j = .ok value
  := by
  rw [values_eq, mapM_eq_error_iff]
  constructor
  · rintro ⟨before, k, after, values, ordinals, earlier, failed⟩
    obtain ⟨m, -, rfl, rest⟩ := List.range'_eq_append_iff.mp ordinals
    obtain ⟨rfl, more, -⟩ := List.range'_eq_cons_iff.mp rest.symm
    refine ⟨1 + m * 1, ⟨by omega, by omega⟩, failed, ?_⟩
    intro j low high
    have read := exists_mapM_eq_ok_iff.mp ⟨values, mapM_eq_ok_iff.mpr earlier⟩
    apply read j
    rw [List.mem_range'_1]
    omega
  · rintro ⟨k, ⟨low, high⟩, failed, earlier⟩
    have read : ∃ values, (List.range' 1 (k - 1)).mapM row.value = .ok values := by
      rw [exists_mapM_eq_ok_iff]
      intro j mem
      rw [List.mem_range'_1] at mem
      apply earlier j mem.1
      omega
    obtain ⟨values, read⟩ := read
    refine ⟨List.range' 1 (k - 1), k, List.range' (k + 1) (row.columns.length - k), values, ?_,
      mapM_eq_ok_iff.mp read, failed⟩
    rw [List.range'_eq_append_iff]
    refine ⟨k - 1, by omega, rfl, ?_⟩
    rw [eq_comm, List.range'_eq_cons_iff]
    refine ⟨by omega, by omega, ?_⟩
    congr 1
    omega

/-- The values of a row stand on their own. -/
structure Isolated (row : Row) : Prop where
  /-- A value is determined by the name and the type of its column and by the first field with that
  name: it is the same, be it a value, absent or a failure, in every row that has this field and
  under every list of columns that has such a column. -/
  determined : ∀ {ordinal : Nat} {column : Column}, columnAt row.columns ordinal = .ok column →
    ∀ {row' : Row} {ordinal' : Nat} {column' : Column}, columnAt row'.columns ordinal' = .ok column' →
      column'.name = column.name → column'.type = column.type →
      ShareField column.name row.element row'.element → row'.value ordinal' = row.value ordinal
  /-- Edits that leave the field of its column alone leave a value alone; an ordinal of no column
  fails in every row alike. -/
  edited : ∀ {ordinal : Nat} {e : Element},
    (∀ column, columnAt row.columns ordinal = .ok column → EditedTo column.name row.element e) →
      Row.value ⟨row.columns, e⟩ ordinal = row.value ordinal
  /-- All values are read exactly when each of them is, -/
  all_iff : (∃ values, row.values = .ok values)
    ↔ ∀ k, row.HasOrdinal k → ∃ value, row.value k = .ok value
  /-- they are then these, in the order of their ordinals, -/
  each : ∀ values, row.values = .ok values ↔
    List.Forall₂ (fun k value => row.value k = .ok value) (List.range' 1 row.columns.length) values
  /-- and otherwise the failure of the first that fails is the failure of them all. -/
  first : ∀ failure, row.values = .error failure ↔ ∃ k, row.HasOrdinal k
    ∧ row.value k = .error failure ∧ ∀ j, 1 ≤ j → j < k → ∃ value, row.value j = .ok value

end Row

/-- Whatever the columns and the children of a row are, each of its values is read from the first
field with the name of its column and from nothing else. -/
theorem values_isolated (row : Row) :
  row.Isolated
  := by
  constructor
  case determined =>
    intro ordinal column place row' ordinal' column' place' name type share
    rw [Row.value_of_columnAt place, Row.value_of_columnAt place']
    apply Row.valueIn_congr name type share
  case edited =>
    intro ordinal e edited
    cases place : columnAt row.columns ordinal with
    | error failure =>
      rw [Row.value, Row.value, place]
      rfl
    | ok column =>
      have place' : columnAt (Row.mk row.columns e).columns ordinal = .ok column := place
      rw [Row.value_of_columnAt place, Row.value_of_columnAt place']
      apply Row.valueIn_congr rfl rfl (editedTo_iff.mp (edited column place))
  case all_iff => apply Row.exists_values_iff
  case each =>
    intro values
    rw [Row.values_eq, mapM_eq_ok_iff]
  case first =>
    intro failure
    apply Row.values_eq_error_iff_value

/-- A vendor's element of the same name, and a field that is no number, do not spoil the value beside
them; the row as a whole fails with the first field that cannot be read. -/
example :
    let field (ns name text : String) : Node :=
      .element ⟨⟨name, some ns, name, []⟩, .ofNodes [.text text]⟩
    let row : Row := ⟨[⟨1, "a", "A", .int⟩, ⟨2, "b", "B", .int⟩, ⟨3, "c", "C", .int⟩],
      ⟨⟨"row", some rowsetNs, "row", []⟩, .ofNodes [field "urn:v" "a" "9", field rowsetNs "c" "y",
        field rowsetNs "b" "x", field rowsetNs "a" "3"]⟩⟩
    row.value 1 = .ok (.int ⟨3, by decide⟩)
      ∧ row.values = .error (.coercion "b" .int (.numeral .invalidDigit)) := by
  decide

end OlapClient.Table
