import Mathlib.Data.List.Forall2
import Mathlib.Tactic.Common
import OlapClient.Proofs.Results
import OlapClient.Proofs.Table.Collecting
import OlapClient.Proofs.Table.Grid
import OlapClient.Proofs.Value.Text
import OlapClient.Protocol.Envelope

/-!
# Tables read back

A table that a provider sends is the table that a client reads.  The response leads to the root of
the result, the schema in front of the rows gives the columns back, and each row gives its values
back, as fields are found by names that no two columns share.  Decimals are compared as numbers.
-/

namespace OlapClient.Table

open OlapClient.Markup
open OlapClient.Protocol
open OlapClient.Schema
open OlapClient.Text

/-! ### Walking the envelope -/

namespace Grid

/-- The `return` element of the response is the one that holds the table. -/
theorem readEnvelope_tree (grid : Grid) (operation : Operation) :
  readEnvelope (grid.tree operation) operation = .ok grid.returnTree
  := by
  have envelope : (grid.tree operation).is soapNs "Envelope" :=
    (Scope.is_branch _).trans (by decide)
  have body : (grid.bodyTree operation).is soapNs "Body" := (Scope.is_branch _).trans (by decide)
  have no_fault : (grid.responseTree operation).is soapNs "Fault" = false :=
    (Scope.is_branch _).trans (by cases operation <;> decide)
  have response : (grid.responseTree operation).is xmlaNs operation.responseName :=
    (Scope.is_branch _).trans (by cases operation <;> decide)
  have result : grid.returnTree.is xmlaNs "return" := (Scope.is_branch _).trans (by decide)
  rw [readEnvelope, if_pos envelope, tree, Scope.findChild?_branch_cons body, bodyTree]
  simp only [orMalformed, bind, Except.bind]
  rw [Scope.findChild?_branch_of_not_is no_fault, Scope.findChild?_branch_cons response,
    responseTree]
  simp only [Scope.findChild?_branch_cons result]

theorem readResponse_document
    {grid : Grid} (names : ∀ h ∈ grid.headings, isNCName h.name.toList) (operation : Operation) :
  readResponse (encode (grid.document operation)) operation = .ok grid.returnTree
  := by
  rw [readResponse, readDocument_document names]
  apply readEnvelope_tree

theorem findChild?_returnTree (grid : Grid) :
  grid.returnTree.findChild? rowsetNs "root" = some grid.rootTree
  := by
  apply Scope.findChild?_branch_cons
  apply (Scope.is_branch _).trans
  decide

end Grid

/-! ### Reading the schema -/

/-- The attributes that a client finds on a declaration. -/
theorem Heading.attributes_tree (h : Heading) :
  h.tree.tag.attributes = [⟨"name", none, "name", h.name⟩,
    ⟨"sql:field", some sqlNs, "field", h.label⟩, ⟨"type", none, "type", h.type.name⟩]
  := by
  have names : rootScope.ofAttributeName "name".toList = none
      ∧ rootScope.ofAttributeName "sql:field".toList = some sqlNs
      ∧ rootScope.ofAttributeName "type".toList = none := by decide
  have parts : String.ofList (splitName "name".toList).2 = "name"
      ∧ String.ofList (splitName "sql:field".toList).2 = "field"
      ∧ String.ofList (splitName "type".toList).2 = "type" := by decide
  obtain ⟨name, label, type⟩ := names
  obtain ⟨name', label', type'⟩ := parts
  simp only [tree, Scope.branch, Scope.tag, attributes, List.map_cons, List.map_nil,
    Scope.attributeOf, name, label, type, name', label', type']

theorem ofDeclaration_tree (h : Heading) (ordinal : Nat) :
  Column.ofDeclaration ordinal h.tree = h.column ordinal
  := by
  simp [Column.ofDeclaration, Element.valueOf, Element.valueOf?, Element.valueOfNs?, Tag.valueOf?,
    Tag.valueOfNs?, Heading.attributes_tree, SchemaType.ofName_name, Heading.column]

theorem columnsFrom_map_tree (headings : List Heading) (ordinal : Nat) :
  columnsFrom ordinal (headings.map Heading.tree)
    = headings.mapIdx fun i h => h.column (ordinal + i)
  := by
  apply List.ext_getElem?
  intro i
  rw [columnsFrom_eq_mapIdx, List.getElem?_mapIdx, List.getElem?_map, List.getElem?_mapIdx]
  cases headings[i]? with
  | none => rfl
  | some h => apply congrArg some (ofDeclaration_tree h _)

theorem Heading.is_tree (h : Heading) :
  h.tree.is schemaNs "element"
  := (Scope.is_branch _).trans (by decide)

/-- The declarations within the type of the rows are those of the columns. -/
theorem findDescendants_rowTypeTree (headings : List Heading) :
  (rowTypeTree headings).findDescendants schemaNs "element" = headings.map Heading.tree
  := by
  have sequence : (sequenceTree headings).is schemaNs "element" = false :=
    (Scope.is_branch _).trans (by decide)
  have below : (sequenceTree headings).descendants = headings.map Heading.tree := by
    rw [sequenceTree, Scope.descendants_branch, List.flatMap_map, List.map_eq_flatMap]
    rfl
  have all : ∀ e ∈ headings.map Heading.tree, e.is schemaNs "element" := by
    intro e he
    obtain ⟨h, -, rfl⟩ := List.mem_map.mp he
    apply h.is_tree
  rw [Element.findDescendants, rowTypeTree, Scope.descendants_branch, List.flatMap_singleton,
    List.filter_cons_of_neg (by simp [sequence]), below, List.filter_eq_self]
  apply all

/-- The type of the rows is found in the schema, whatever the rows hold. -/
theorem rowType?_rootTree (grid : Grid) :
  rowType? grid.rootTree = some (rowTypeTree grid.headings)
  := by
  have schema : (schemaTree grid.headings).is schemaNs "complexType" = false :=
    (Scope.is_branch _).trans (by decide)
  have row_type : (rowTypeTree grid.headings).is schemaNs "complexType" :=
    (Scope.is_branch _).trans (by decide)
  have named : (rowTypeTree grid.headings).valueOf? "name" = some "row" := rfl
  have first : ∃ rest, grid.rootTree.descendants
      = schemaTree grid.headings :: rowTypeTree grid.headings :: rest := by
    rw [Grid.rootTree, Scope.descendants_branch, List.flatMap_cons, schemaTree,
      Scope.descendants_branch, List.flatMap_singleton]
    use (rowTypeTree grid.headings).descendants
      ++ (grid.rows.map (rowTree grid.headings)).flatMap fun e => e :: e.descendants
    simp only [List.cons_append]
  obtain ⟨rest, descendants⟩ := first
  rw [rowType?, Element.findDescendants, descendants, List.filter_cons, if_neg (by simp [schema]),
    List.filter_cons, if_pos row_type, List.find?_cons, named]
  rfl

theorem readColumns_rootTree (grid : Grid) :
  readColumns grid.rootTree = grid.columns
  := by
  rw [readColumns, rowType?_rootTree]
  dsimp only
  rw [findDescendants_rowTypeTree, columnsFrom_map_tree, Grid.columns]
  simp only [Nat.add_comm 1]

/-! ### Reading the rows -/

theorem rowElements_rootTree (grid : Grid) :
  rowElements grid.rootTree = grid.rows.map (rowTree grid.headings)
  := by
  have schema : (schemaTree grid.headings).tag.localName = "schema" :=
    (Scope.localName_branch _).trans (by decide)
  have rows : ∀ e ∈ grid.rows.map (rowTree grid.headings), (e.tag.localName == "row") = true := by
    intro e he
    obtain ⟨row, -, rfl⟩ := List.mem_map.mp he
    rw [rowTree, Scope.localName_branch]
    decide
  rw [rowElements, Grid.rootTree, Scope.children_branch,
    List.filter_cons_of_neg (by simp [schema]), List.filter_eq_self]
  apply rows

/-- A field is found by its name. -/
theorem childText?_leaves
    {items : List (String × String)} (names : ∀ item ∈ items, isNCName item.1.toList)
    (qname name : String) :
  (rootScope.branch qname [] (leaves rootScope items)).childText? rowsetNs name
    = (items.find? (·.1 == name)).map (·.2)
  := by
  have ns : rootScope.lookup [] = some rowsetNs := by decide
  rw [Element.childText?, Element.findChild?, Scope.children_branch]
  induction items with
  | nil => rfl
  | cons item items ih =>
    have first := names item (by simp)
    have is_name : (rootScope.leaf item.1 item.2).is rowsetNs name = (item.1 == name) := by
      rw [Element.is, Scope.leaf, Tag.is, Scope.ns_tag_of_isNCName first,
        Scope.localName_tag_of_isNCName first, ns]
      simp
    rw [leaves, List.map_cons, List.find?_cons, List.find?_cons, is_name]
    cases item.1 == name with
    | true => simp
    | false => apply ih fun item' hitem' => names item' (by simp [hitem'])

theorem rowFields_cons (h : Heading) (headings : List Heading) (v : Value) (row : List Value) :
  rowFields (h :: headings) (v :: row)
    = (v.text?.map (h.name, ·)).toList ++ rowFields headings row
  := by
  rw [rowFields, List.zip_cons_cons, List.filterMap_cons]
  cases v.text? <;> rfl

/-- A name that no column has is the name of no field. -/
theorem find?_rowFields_of_not_mem
    {headings : List Heading} {name : String} (absent : name ∉ headings.map (·.name))
    (row : List Value) :
  (rowFields headings row).find? (·.1 == name) = none
  := by
  rw [List.find?_eq_none]
  intro item hitem same
  obtain ⟨⟨h, v⟩, pair, made⟩ := List.mem_filterMap.mp hitem
  obtain ⟨text, -, rfl⟩ := Option.map_eq_some_iff.mp made
  apply absent
  rw [← beq_iff_eq.mp same]
  apply List.mem_map_of_mem (List.of_mem_zip pair).1

/-- The field of a column has the text of the value in that column, as no other column has its
name. -/
theorem find?_rowFields
    {headings : List Heading} (distinct : (headings.map (·.name)).Nodup) {row : List Value}
    {h : Heading} {v : Value} (pair : (h, v) ∈ headings.zip row) :
  ((rowFields headings row).find? (·.1 == h.name)).map (·.2) = v.text?
  := by
  induction headings generalizing row with
  | nil => simp at pair
  | cons first headings ih =>
    cases row with
    | nil => simp at pair
    | cons value row =>
      rw [List.map_cons, List.nodup_cons] at distinct
      rw [List.zip_cons_cons, List.mem_cons] at pair
      rw [rowFields_cons, List.find?_append]
      rcases pair with here | later
      · obtain ⟨rfl, rfl⟩ := Prod.mk.inj here
        -- If the value is absent, the search goes on and must find nothing further on.
        rw [find?_rowFields_of_not_mem distinct.1]
        cases v.text? <;> simp
      · have other : first.name ≠ h.name := by
          intro same
          apply distinct.1
          rw [same]
          apply List.mem_map_of_mem (List.of_mem_zip later).1
        have passed : (value.text?.map (first.name, ·)).toList.find? (·.1 == h.name) = none := by
          cases value.text? <;> simp [other]
        rw [passed, Option.none_or]
        apply ih distinct.2 later

/-- A row gives back the value in a column. -/
theorem valueIn_rowTree
    {grid : Grid} (sound : grid.Sound) {row : List Value} {h : Heading} {v : Value}
    (pair : (h, v) ∈ grid.headings.zip row) (takes : h.Takes v) (columns : List Column)
    (ordinal : Nat) :
  ∃ v', Row.valueIn ⟨columns, rowTree grid.headings row⟩ (h.column ordinal) = .ok v' ∧ v'.Same v
  := by
  have member := (List.of_mem_zip pair).1
  have text : (rowTree grid.headings row).childText? rowsetNs h.name = v.text? := by
    rw [rowTree, childText?_leaves (isNCName_of_mem_rowFields sound.names row),
      find?_rowFields sound.distinct pair]
  rw [Row.valueIn, readField, Heading.column, text]
  rcases takes with rfl | ⟨written, field, read⟩
  · use .null
    exact ⟨rfl, rfl⟩
  · obtain ⟨float, double⟩ := sound.exact_types h member
    obtain ⟨s, v', has_text, reread, same⟩ := coerce_text read float double h.name
    use v'
    rw [has_text]
    exact ⟨reread, same⟩

/-! ### Lists of results -/

/-- A relation that places do not matter to holds of numbered entries. -/
theorem forall₂_mapIdx_left
    {α β γ : Type} {R : α → γ → Prop} {P : β → γ → Prop} {f : Nat → β → α} {l : List β}
    {cs : List γ} (each : List.Forall₂ P l cs) (numbered : ∀ i b c, P b c → R (f i b) c) :
  List.Forall₂ R (l.mapIdx f) cs
  := by
  induction each generalizing f with
  | nil => apply List.Forall₂.nil
  | cons first _ ih =>
    rw [List.mapIdx_cons]
    apply List.Forall₂.cons (numbered 0 _ _ first)
    apply ih
    intro i
    apply numbered (i + 1)

/-- A row gives back its values. -/
theorem values_rowTree
    {grid : Grid} (sound : grid.Sound) {row : List Value} (mem : row ∈ grid.rows) :
  ∃ values, Row.values ⟨grid.columns, rowTree grid.headings row⟩ = .ok values
    ∧ List.Forall₂ Value.Same values row
  := by
  obtain ⟨length, takes⟩ := List.forall₂_iff_zip.mp (sound.rows row mem)
  have pairs : List.Forall₂ (fun h v => (h, v) ∈ grid.headings.zip row) grid.headings row := by
    rw [List.forall₂_iff_zip]
    exact ⟨length, fun pair => pair⟩
  apply mapM_eq_ok_of_forall₂
  apply forall₂_mapIdx_left pairs
  intro i h v pair
  apply valueIn_rowTree sound pair (takes pair)

/-! ### The table as it is read -/

/-- A table is read back from the response that carries it: its columns with their places, and the
values of its rows, row by row. -/
theorem readRowSet_document (grid : Grid) (sound : grid.Sound) (operation : Operation) :
  ∃ payload rowSet,
    readResponse (encode (grid.document operation)) operation = .ok payload
    ∧ (readRowSet collecting payload).outcome .empty = (.ok (), rowSet)
    ∧ rowSet.columns = grid.columns
    ∧ List.Forall₂ (fun row values => ∃ read, row.values = .ok read
      ∧ List.Forall₂ Value.Same read values) rowSet.allRows grid.rows
  := by
  use grid.returnTree, .ofRows grid.columns (grid.rows.map (rowTree grid.headings))
  constructor
  · apply Grid.readResponse_document sound.names
  constructor
  · rw [outcome_readRowSet_collecting grid.findChild?_returnTree, readColumns_rootTree,
      rowElements_rootTree]
  constructor
  · rfl
  · rw [RowSet.allRows_ofRows, List.map_map, List.forall₂_map_left_iff, List.forall₂_same]
    intro row mem
    apply values_rowTree sound mem

/-- A table of a text and a decimal column, with labels and texts that look like markup, an absent
value in each column and decimals written with an exponent and with trailing zeros. -/
def priceList : Grid where
  headings := [⟨"Item", "<Item name=\"x\"> & 'y'", .string⟩, ⟨"Price", "", .decimal⟩]
  rows := [[.string "]]></Item>&lt;", .decimal ⟨1, -3⟩], [.null, .decimal ⟨-250, 2⟩],
    [.string "", .null]]

theorem sound_priceList :
  priceList.Sound
  := by
  have thousand : coerce "1e3" "Price" .decimal = .ok (.decimal ⟨1, -3⟩) := by rfl
  have negative : coerce " -2.50 " "Price" .decimal = .ok (.decimal ⟨-250, 2⟩) := by rfl
  have text (s : String) : coerce s "Item" .string = .ok (.string s) := rfl
  constructor
  · decide
  · decide
  · decide
  · simp only [priceList, List.forall_mem_cons, List.forall₂_cons, List.Forall₂.nil, and_true]
    exact ⟨⟨.inr ⟨_, _, text _⟩, .inr ⟨_, _, thousand⟩⟩, ⟨.inl rfl, .inr ⟨_, _, negative⟩⟩,
      ⟨.inr ⟨_, _, text _⟩, .inl rfl⟩, by simp⟩

theorem readRowSet_document_priceList :
  priceList.Sound ∧ ∃ payload rowSet,
    readResponse (encode (priceList.document .execute)) .execute = .ok payload
    ∧ (readRowSet collecting payload).outcome .empty = (.ok (), rowSet)
    ∧ rowSet.columns = priceList.columns
    ∧ List.Forall₂ (fun row values => ∃ read, row.values = .ok read
      ∧ List.Forall₂ Value.Same read values) rowSet.allRows priceList.rows
  := by
  constructor
  · apply sound_priceList
  · apply readRowSet_document priceList sound_priceList

end OlapClient.Table
