import Mathlib.Tactic.Common
import OlapClient.Table.Column

/-!
# Declarations of a schema

The type of the rows declares fields, and the declaration of a field may hold a type of its own that
declares fields of the field.  `declarations` lists all of them in document order, each with the
number of declarations that it stands within; those that stand within no other declare the fields of
the row.

The columns of a result are made of all declarations, whatever they stand within.
`columns_fields_iff` says that they are the fields of the row exactly when no declaration stands
within another one, and that otherwise each field moves up by the declarations within fields before
it; `field_of_field_read` has a schema where that happens.
-/

namespace OlapClient

open OlapClient.Markup
open OlapClient.Protocol

/-! ### Elements within elements of the same name -/

namespace Markup

/-- An element, and the number of elements like it that it stands within. -/
structure Nested where
  depth : Nat
  element : Element
  deriving DecidableEq, Repr

/-- The elements at any depth with this namespace and local name in document order, each with the
number of such elements that it stands within, where the content itself stands within `depth` of
them. -/
def Content.findNested (ns localName : String) (depth : Nat) : Content → List Nested
  | nil => []
  | text _ rest => rest.findNested ns localName depth
  | element tag inner rest =>
    if tag.is ns localName then
      ⟨depth, ⟨tag, inner⟩⟩ :: (inner.findNested ns localName (depth + 1)
        ++ rest.findNested ns localName depth)
    else inner.findNested ns localName depth ++ rest.findNested ns localName depth

/-- No element is left out, whatever it stands within. -/
theorem Content.map_element_findNested (ns localName : String) (depth : Nat) (c : Content) :
  (c.findNested ns localName depth).map Nested.element
    = c.descendants.filter (·.is ns localName)
  := by
  induction c generalizing depth with
  | nil => rfl
  | text s rest ih => apply ih
  | element tag inner rest inner_ih rest_ih =>
    rw [findNested, descendants, List.filter_cons, List.filter_append, Element.is]
    split
    · rw [List.map_cons, List.map_append, inner_ih, rest_ih]
    · rw [List.map_append, inner_ih, rest_ih]

end Markup

/-! ### The fields of the row -/

namespace Table

/-- The declarations in the type of the rows; none where there is no such type. -/
def declarations (root : Element) : List Nested :=
  match rowType? root with
  | some rowType => rowType.content.findNested schemaNs "element" 0
  | none => []

/-- The declarations of the fields of the row: those that stand within no other one. -/
def fieldDeclarations (root : Element) : List Nested :=
  (declarations root).filter (·.depth = 0)

/-- The columns that the fields of the row make. -/
def fieldColumns (root : Element) : List Column :=
  columnsFrom 1 ((fieldDeclarations root).map Nested.element)

/-- The number of declarations within fields among the first ones. -/
def nestedBefore (root : Element) (count : Nat) : Nat :=
  ((declarations root).take count).countP (·.depth ≠ 0)

theorem readColumns_eq_columnsFrom (root : Element) :
  readColumns root = columnsFrom 1 ((declarations root).map Nested.element)
  := by
  rw [readColumns, declarations]
  cases rowType? root with
  | none => rfl
  | some rowType =>
    rw [Content.map_element_findNested]
    rfl

theorem length_columnsFrom (ordinal : Nat) (elements : List Element) :
  (columnsFrom ordinal elements).length = elements.length
  := by
  rw [columnsFrom_eq_mapIdx, List.length_mapIdx]

theorem getElem?_columnsFrom (elements : List Element) (i : Nat) :
  (columnsFrom 1 elements)[i]? = elements[i]?.map (.ofDeclaration (i + 1))
  := by
  rw [columnsFrom_eq_mapIdx, List.getElem?_mapIdx, Nat.add_comm]

theorem readColumns_eq_fieldColumns_iff (root : Element) :
  readColumns root = fieldColumns root ↔ ∀ d ∈ declarations root, d.depth = 0
  := by
  have all : ((fieldDeclarations root).length = (declarations root).length)
      ↔ ∀ d ∈ declarations root, d.depth = 0 := by
    simp [fieldDeclarations, List.length_filter_eq_length_iff]
  rw [readColumns_eq_columnsFrom, fieldColumns, ← all]
  constructor
  · intro same
    have lengths := congrArg List.length same
    rw [length_columnsFrom, length_columnsFrom, List.length_map, List.length_map] at lengths
    apply lengths.symm
  · intro lengths
    rw [fieldDeclarations, List.filter_sublist.eq_of_length lengths]

/-- An entry that a filter keeps comes after those before it that the filter keeps. -/
theorem getElem?_filter_countP_take
    {α : Type} {p : α → Bool} {l : List α} {i : Nat} {a : α} (found : l[i]? = some a)
    (kept : p a = true) :
  (l.filter p)[(l.take i).countP p]? = some a
  := by
  have parts : l = l.take i ++ a :: l.drop (i + 1) := by
    conv => lhs; rw [← List.take_append_drop i l, List.drop_eq_getElem?_toList_append, found]
    rfl
  have filtered : l.filter p = (l.take i).filter p ++ a :: (l.drop (i + 1)).filter p := by
    conv => lhs; rw [parts, List.filter_append, List.filter_cons_of_pos kept]
  rw [filtered, List.countP_eq_length_filter, List.getElem?_append_right (Nat.le_refl _),
    Nat.sub_self]
  rfl

theorem nestedBefore_add_countP
    {root : Element} {i : Nat} (within : i ≤ (declarations root).length) :
  nestedBefore root i + ((declarations root).take i).countP (·.depth = 0) = i
  := by
  have split := List.length_eq_countP_add_countP (·.depth = 0) (l := (declarations root).take i)
  rw [List.length_take_of_le within] at split
  simp only [nestedBefore, decide_eq_true_eq, ne_eq] at split ⊢
  omega

/-- What is made of the declaration at a place among all declarations. -/
structure Placed (root : Element) (i : Nat) (d : Nested) : Prop where
  /-- It is a column, numbered as it comes among all declarations. -/
  read : (readColumns root)[i]? = some (.ofDeclaration (i + 1) d.element)
  /-- If it declares a field of the row, it should be numbered as it comes among these fields.  The
  number that it has is greater by the declarations within fields before it. -/
  moved : d.depth = 0 → ∃ j, i = j + nestedBefore root i
    ∧ (fieldColumns root)[j]? = some (.ofDeclaration (j + 1) d.element)

theorem placed_of_getElem?
    {root : Element} {i : Nat} {d : Nested} (found : (declarations root)[i]? = some d) :
  Placed root i d
  := by
  obtain ⟨below, -⟩ := List.getElem?_eq_some_iff.mp found
  constructor
  · rw [readColumns_eq_columnsFrom, getElem?_columnsFrom, List.getElem?_map, found]
    rfl
  · intro field
    have place := nestedBefore_add_countP (Nat.le_of_lt below)
    have kept : (fieldDeclarations root)[((declarations root).take i).countP (·.depth = 0)]?
        = some d := getElem?_filter_countP_take found (decide_eq_true field)
    use ((declarations root).take i).countP (·.depth = 0)
    constructor
    · omega
    · rw [fieldColumns, getElem?_columnsFrom, List.getElem?_map, kept]
      rfl

/-- All declarations in the type of the rows are read as columns, in document order.  These are the
columns of the fields of the row exactly when no declaration stands within another one. -/
theorem columns_fields_iff (root : Element) :
  (readColumns root = fieldColumns root ↔ ∀ d ∈ declarations root, d.depth = 0)
    ∧ (readColumns root).length = (declarations root).length
    ∧ ∀ i d, (declarations root)[i]? = some d → Placed root i d
  := by
  use readColumns_eq_fieldColumns_iff root
  constructor
  · rw [readColumns_eq_columnsFrom, length_columnsFrom, List.length_map]
  · intro i d found
    apply placed_of_getElem? found

/-- An element of a schema. -/
def schemaPart (localName : String) (attributes : List Attribute) (parts : List Element) :
    Element :=
  ⟨⟨"xsd:" ++ localName, some schemaNs, localName, attributes⟩, .ofNodes (parts.map .element)⟩

/-- A result whose rows have fields that are declared so. -/
def rootDeclaring (fields rows : List Element) : Element :=
  ⟨⟨"root", some rowsetNs, "root", []⟩, .ofNodes (.element (schemaPart "schema" []
    [schemaPart "complexType" [⟨"name", none, "name", "row"⟩] [schemaPart "sequence" [] fields]])
      :: rows.map .element)⟩

/-- The declaration of a field of a given name, with the types that it holds. -/
def declare (name : String) (types : List Element) : Element :=
  schemaPart "element" [⟨"name", none, "name", name⟩] types

/-- A result whose rows have a name, restrictions and a description, where each restriction has a
name and a type. -/
def restrictedRoot : Element :=
  rootDeclaring [declare "SchemaName" [],
    declare "Restrictions" [schemaPart "complexType" [] [schemaPart "sequence" []
      [declare "Name" [], declare "Type" []]]],
    declare "Description" []] []

/-- The declarations of the name and the type of a restriction are read as columns of the row. -/
theorem field_of_field_read :
  ¬ ∀ root : Element, readColumns root = fieldColumns root
  := by
  intro fields
  have flat := (readColumns_eq_fieldColumns_iff restrictedRoot).mp (fields restrictedRoot)
  apply absurd flat
  decide

end Table

end OlapClient
