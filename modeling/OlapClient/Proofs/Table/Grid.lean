import Mathlib.Data.List.Forall2
import Mathlib.Tactic.Common
import OlapClient.Proofs.Protocol.Request
import OlapClient.Table.Column
import OlapClient.Value.Coercion

/-!
# Tables as a provider sends them

A `Grid` is a table on the side of the sender: headings and rows of values.  `Grid.document` is the
response that carries it, an envelope around a result with its schema in front of its rows, and
`Grid.tree` is the element that reading that response gives.  An absent value has no field in its
row; every other value has one with its text.
-/

namespace OlapClient.Table

open OlapClient.Markup
open OlapClient.Protocol
open OlapClient.Schema
open OlapClient.Text

/-! ### Tables -/

/-- A column as a provider declares it. -/
structure Heading where
  name : String
  label : String
  type : SchemaType
  deriving DecidableEq, Repr

/-- The column that a heading becomes at a place. -/
def Heading.column (h : Heading) (ordinal : Nat) : Column :=
  ⟨ordinal, h.name, h.label, h.type⟩

/-- A value that a field of the column may have: none at all, or one that a text has. -/
def Heading.Takes (h : Heading) (v : Value) : Prop :=
  v = .null ∨ ∃ text field, coerce text field h.type = .ok v

/-- A table: what its columns are called and the values of each row. -/
structure Grid where
  headings : List Heading
  rows : List (List Value)
  deriving DecidableEq, Repr

namespace Grid

/-- The columns have readable, pairwise distinct names and exact types, and each row has one
value for each column that the column may have. -/
structure Sound (grid : Grid) : Prop where
  names : ∀ h ∈ grid.headings, isNCName h.name.toList
  distinct : (grid.headings.map (·.name)).Nodup
  exact_types : ∀ h ∈ grid.headings, h.type ≠ .float ∧ h.type ≠ .double
  rows : ∀ row ∈ grid.rows, List.Forall₂ Heading.Takes grid.headings row

/-- The columns of a table, numbered from one. -/
def columns (grid : Grid) : List Column :=
  grid.headings.mapIdx fun i h => h.column (i + 1)

end Grid

/-! ### The document of a table -/

/-- The attributes of the declaration of a column. -/
def Heading.attributes (h : Heading) : List (String × String) :=
  [("name", h.name), ("sql:field", h.label), ("type", h.type.name)]

/-- The declaration of a column. -/
def Heading.text (h : Heading) : List Char :=
  openingText "xsd:element" h.attributes ++ endTag "xsd:element"

/-- The names and the texts of the fields that a row has. -/
def rowFields (headings : List Heading) (row : List Value) : List (String × String) :=
  (headings.zip row).filterMap fun item => item.2.text?.map (item.1.name, ·)

/-- A row, with a field for each value that is present. -/
def rowText (headings : List Heading) (row : List Value) : List Char :=
  enclose "row" ((rowFields headings row).flatMap fun (name, text) => textElement name text)

/-- The schema that declares columns. -/
def schemaText (headings : List Heading) : List Char :=
  enclose "xsd:schema"
    (openingText "xsd:complexType" [("name", "row")]
      ++ enclose "xsd:sequence" (headings.flatMap Heading.text)
      ++ endTag "xsd:complexType")

/-- The attributes of the root of a result. -/
def rootAttributes : List (String × String) :=
  [("xmlns", rowsetNs), ("xmlns:xsd", schemaNs), ("xmlns:sql", sqlNs)]

/-- The element of a response to an operation, as it is written. -/
def responseQName (operation : Operation) : String :=
  "cxmla:" ++ operation.responseName

namespace Grid

/-- A table as the root of a result. -/
def rootText (grid : Grid) : List Char :=
  openingText "root" rootAttributes
    ++ schemaText grid.headings ++ grid.rows.flatMap (rowText grid.headings) ++ endTag "root"

/-- The response to an operation that carries a table. -/
def document (grid : Grid) (operation : Operation) : List Char :=
  prolog ++ openingText "SOAP-ENV:Envelope" envelopeAttributes
    ++ enclose "SOAP-ENV:Body"
      (openingText (responseQName operation) [("xmlns:cxmla", xmlaNs)]
        ++ enclose "cxmla:return" grid.rootText
        ++ endTag (responseQName operation))
    ++ endTag "SOAP-ENV:Envelope"

end Grid

/-! ### The element of a table -/

/-- The bindings within the element of a response. -/
def responseScope : Scope :=
  ⟨"cxmla".toList, xmlaNs.toList⟩ :: envelopeScope

/-- The bindings within the root of a result. -/
def rootScope : Scope :=
  ⟨"sql".toList, sqlNs.toList⟩ :: ⟨"xsd".toList, schemaNs.toList⟩ :: ⟨[], rowsetNs.toList⟩
    :: responseScope

/-- The declaration of a column as an element. -/
def Heading.tree (h : Heading) : Element :=
  rootScope.branch "xsd:element" h.attributes []

/-- The declarations of columns in order, as an element. -/
def sequenceTree (headings : List Heading) : Element :=
  rootScope.branch "xsd:sequence" [] (headings.map Heading.tree)

/-- The type of the rows as an element. -/
def rowTypeTree (headings : List Heading) : Element :=
  rootScope.branch "xsd:complexType" [("name", "row")] [sequenceTree headings]

/-- The schema as an element. -/
def schemaTree (headings : List Heading) : Element :=
  rootScope.branch "xsd:schema" [] [rowTypeTree headings]

/-- A row as an element. -/
def rowTree (headings : List Heading) (row : List Value) : Element :=
  rootScope.branch "row" [] (leaves rootScope (rowFields headings row))

namespace Grid

/-- The root of the result as an element. -/
def rootTree (grid : Grid) : Element :=
  rootScope.branch "root" rootAttributes
    (schemaTree grid.headings :: grid.rows.map (rowTree grid.headings))

/-- The result as an element. -/
def returnTree (grid : Grid) : Element :=
  responseScope.branch "cxmla:return" [] [grid.rootTree]

/-- The response to an operation as an element. -/
def responseTree (grid : Grid) (operation : Operation) : Element :=
  responseScope.branch (responseQName operation) [("xmlns:cxmla", xmlaNs)] [grid.returnTree]

/-- The body of the envelope as an element. -/
def bodyTree (grid : Grid) (operation : Operation) : Element :=
  envelopeScope.branch "SOAP-ENV:Body" [] [grid.responseTree operation]

/-- The envelope as an element. -/
def tree (grid : Grid) (operation : Operation) : Element :=
  envelopeScope.branch "SOAP-ENV:Envelope" envelopeAttributes [grid.bodyTree operation]

end Grid

/-! ### The document is the element -/

theorem Heading.plain_tree (h : Heading) :
  h.tree.plain = h.text
  := by
  rw [tree, plain_branch, text, List.flatMap_nil, List.append_nil]

theorem plain_rowTree (headings : List Heading) (row : List Value) :
  (rowTree headings row).plain = rowText headings row
  := by
  rw [rowTree, plain_bare, plain_leaves, rowText]

theorem plain_schemaTree (headings : List Heading) :
  (schemaTree headings).plain = schemaText headings
  := by
  rw [schemaTree, plain_bare, List.flatMap_singleton, rowTypeTree, plain_branch,
    List.flatMap_singleton, sequenceTree, plain_bare, List.flatMap_map, schemaText]
  simp only [Heading.plain_tree]

namespace Grid

theorem plain_rootTree (grid : Grid) :
  grid.rootTree.plain = grid.rootText
  := by
  rw [rootTree, plain_branch, List.flatMap_cons, List.flatMap_map, plain_schemaTree, rootText]
  simp only [plain_rowTree, List.append_assoc]

/-- A table is written as the document of its element. -/
theorem document_eq (grid : Grid) (operation : Operation) :
  grid.document operation = documentText (grid.tree operation)
  := by
  rw [document, documentText, tree, plain_branch, List.flatMap_singleton, bodyTree, plain_bare,
    List.flatMap_singleton, responseTree, plain_branch, List.flatMap_singleton, returnTree,
    plain_bare, List.flatMap_singleton, plain_rootTree]
  simp only [List.append_assoc]

/-! ### The element fits -/

end Grid

theorem Heading.fits_tree (h : Heading) :
  h.tree.Fits rootScope
  := by
  have allowed : rootScope.Allows rootScope "xsd:element" h.attributes := by
    apply Scope.allows_plain rootScope (by decide)
    · simp only [attributes, List.forall_mem_cons]
      decide
    · have keys : h.attributes.map (·.1) = ["name", "sql:field", "type"] := rfl
      rw [keys]
      decide
    · simp only [attributes, List.forall_mem_cons]
      decide
  apply allowed.fits_branch
  simp

theorem fits_schemaTree (headings : List Heading) :
  (schemaTree headings).Fits rootScope
  := by
  have row_type : rootScope.Allows rootScope "xsd:complexType" [("name", "row")] := by
    apply Scope.allows_plain rootScope <;> decide
  apply (Scope.allows_bare rootScope (by decide)).fits_branch
  rw [List.forall_mem_singleton]
  apply row_type.fits_branch
  rw [List.forall_mem_singleton]
  apply (Scope.allows_bare rootScope (by decide)).fits_branch
  intro e he
  obtain ⟨h, -, rfl⟩ := List.mem_map.mp he
  apply h.fits_tree

/-- The fields of a row have the names of columns. -/
theorem isNCName_of_mem_rowFields
    {headings : List Heading} (names : ∀ h ∈ headings, isNCName h.name.toList) (row : List Value) :
  ∀ item ∈ rowFields headings row, isNCName item.1.toList
  := by
  intro item hitem
  obtain ⟨⟨h, v⟩, hpair, hitem⟩ := List.mem_filterMap.mp hitem
  obtain ⟨text, -, rfl⟩ := Option.map_eq_some_iff.mp hitem
  apply names h (List.of_mem_zip hpair).1

theorem fits_rowTree
    {headings : List Heading} (names : ∀ h ∈ headings, isNCName h.name.toList) (row : List Value) :
  (rowTree headings row).Fits rootScope
  := by
  apply (Scope.allows_bare rootScope (by decide)).fits_branch
  apply fits_leaves
  intro item hitem
  apply isNameToken_of_isNCName (isNCName_of_mem_rowFields names row item hitem)

theorem allows_root :
  responseScope.Allows rootScope "root" rootAttributes
  := by
  constructor <;> decide

theorem allows_response (operation : Operation) :
  envelopeScope.Allows responseScope (responseQName operation) [("xmlns:cxmla", xmlaNs)]
  := by
  cases operation <;> constructor <;> decide

namespace Grid

theorem fits_tree
    {grid : Grid} (names : ∀ h ∈ grid.headings, isNCName h.name.toList) (operation : Operation) :
  (grid.tree operation).Fits .initial
  := by
  apply allows_envelope.fits_branch
  rw [List.forall_mem_singleton]
  apply (Scope.allows_bare envelopeScope (by decide)).fits_branch
  rw [List.forall_mem_singleton]
  apply (allows_response operation).fits_branch
  rw [List.forall_mem_singleton]
  apply (Scope.allows_bare responseScope (by decide)).fits_branch
  rw [List.forall_mem_singleton]
  apply allows_root.fits_branch
  rw [List.forall_mem_cons]
  constructor
  · apply fits_schemaTree
  · intro e he
    obtain ⟨row, -, rfl⟩ := List.mem_map.mp he
    apply fits_rowTree names

/-- The document of a table is read as its element. -/
theorem readDocument_document
    {grid : Grid} (names : ∀ h ∈ grid.headings, isNCName h.name.toList) (operation : Operation) :
  readDocument (encode (grid.document operation)) = .ok (grid.tree operation)
  := by
  rw [document_eq]
  apply readDocument_documentText
  apply fits_tree names

end Grid

end OlapClient.Table
