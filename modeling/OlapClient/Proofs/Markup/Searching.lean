import Mathlib.Data.List.Sort
import OlapClient.Markup.Element

/-!
# Searches in document order

Each node below an element has a place: the numbers of the children that lead to it, from the
outermost on.  Document order is the lexicographic order of the places; an element comes before what
it holds, and that comes before its later siblings.  `IsDocumentOrder` describes the list of all
nodes below an element in this order, and `below` makes it.

The searches walk through an element in different ways: some stop at the first element that they
look for, some collect all of them, and some stay among the children.  `searches_agree` reads what
each of them finds off the one list in document order.
-/

namespace OlapClient.Markup

/-! ### Places -/

/-- The numbers of the children that lead from a node to one below it. -/
abbrev Place : Type := List Nat

/-- The node at a place below a node. -/
def Node.at? : Node → Place → Option Node
  | n, [] => some n
  | .text _, _ :: _ => none
  | .element e, i :: place => e.content.nodes[i]?.bind (·.at? place)

/-- A node and the place where it stands. -/
structure Placed where
  place : Place
  node : Node
  deriving DecidableEq, Repr

/-- A list has each node below an element once, at its place, and the places come in order. -/
structure IsDocumentOrder (e : Element) (l : List Placed) : Prop where
  ordered : l.Pairwise (·.place < ·.place)
  complete : ∀ p, p ∈ l ↔ p.place ≠ [] ∧ (Node.element e).at? p.place = some p.node

/-- There is no more than one list of the nodes below an element in document order. -/
theorem IsDocumentOrder.unique
    {e : Element} {l l' : List Placed} (h : IsDocumentOrder e l) (h' : IsDocumentOrder e l') :
  l = l'
  := by
  have irreflexive : Std.Irrefl fun p q : Placed => p.place < q.place :=
    ⟨fun p => List.lt_irrefl p.place⟩
  apply h.ordered.eq_of_mem_iff h'.ordered
  intro p
  rw [h.complete, h'.complete]

/-- A node stands among children, the first of which has a number, or below one of them. -/
def StandsAmong (number : Nat) (nodes : List Node) (p : Placed) : Prop :=
  ∃ i place child, p.place = (number + i) :: place ∧ nodes[i]? = some child
    ∧ child.at? place = some p.node

theorem not_standsAmong_nil (number : Nat) (p : Placed) :
  ¬ StandsAmong number [] p
  := by
  rintro ⟨i, place, child, -, found, -⟩
  cases found

theorem standsAmong_cons {number : Nat} {n : Node} {nodes : List Node} {p : Placed} :
  StandsAmong number (n :: nodes) p
    ↔ (∃ place, p.place = number :: place ∧ n.at? place = some p.node)
      ∨ StandsAmong (number + 1) nodes p
  := by
  constructor
  · rintro ⟨_ | i, place, child, start, found, stands⟩
    · cases found
      exact .inl ⟨place, start, stands⟩
    · rw [Nat.add_comm i, ← Nat.add_assoc] at start
      exact .inr ⟨i, place, child, start, found, stands⟩
  · rintro (⟨place, start, stands⟩ | ⟨i, place, child, start, found, stands⟩)
    · exact ⟨0, place, n, start, rfl, stands⟩
    · rw [Nat.add_assoc, Nat.add_comm 1] at start
      exact ⟨i + 1, place, child, start, found, stands⟩

theorem at?_text_eq_some {s : String} {place : Place} {n : Node} :
  (Node.text s).at? place = some n ↔ place = [] ∧ n = .text s
  := by
  cases place <;> simp [Node.at?, eq_comm]

theorem at?_element_eq_some {e : Element} {place : Place} {n : Node} :
  (Node.element e).at? place = some n
    ↔ place = [] ∧ n = .element e ∨ StandsAmong 0 e.content.nodes ⟨place, n⟩
  := by
  cases place with
  | nil => simp [Node.at?, StandsAmong, eq_comm]
  | cons i place =>
    rw [Node.at?, Option.bind_eq_some_iff]
    simp [StandsAmong]

/-! ### The nodes below an element -/

/-- What is placed below a child, seen from the parent. -/
def Placed.within (number : Nat) (p : Placed) : Placed :=
  ⟨number :: p.place, p.node⟩

/-- The nodes of a content at any depth in document order, where its first child has a number. -/
def Content.placed (number : Nat) : Content → List Placed
  | nil => []
  | text s rest => ⟨[number], .text s⟩ :: rest.placed (number + 1)
  | element tag inner rest =>
    ⟨[number], .element ⟨tag, inner⟩⟩
      :: ((inner.placed 0).map (Placed.within number) ++ rest.placed (number + 1))

/-- The nodes below an element in document order. -/
def Element.below (e : Element) : List Placed :=
  e.content.placed 0

theorem Content.mem_placed_iff {number : Nat} {c : Content} {p : Placed} :
  p ∈ c.placed number ↔ StandsAmong number c.nodes p
  := by
  induction c generalizing number p with
  | nil => simp [placed, nodes, not_standsAmong_nil]
  | text s rest ih =>
    rw [placed, List.mem_cons, ih, nodes, standsAmong_cons]
    apply or_congr_left
    obtain ⟨place, node⟩ := p
    simp [at?_text_eq_some]
  | element tag inner rest inner_ih rest_ih =>
    rw [placed, List.mem_cons, List.mem_append, rest_ih, nodes, standsAmong_cons, ← or_assoc]
    apply or_congr_left
    obtain ⟨place, node⟩ := p
    simp only [at?_element_eq_some, ← inner_ih, List.mem_map, Placed.within, Placed.mk.injEq]
    constructor
    · rintro (⟨rfl, rfl⟩ | ⟨q, below, rfl, rfl⟩)
      · exact ⟨[], rfl, .inl ⟨rfl, rfl⟩⟩
      · exact ⟨q.place, rfl, .inr below⟩
    · rintro ⟨place, rfl, ⟨rfl, rfl⟩ | below⟩
      · exact .inl ⟨rfl, rfl⟩
      · exact .inr ⟨_, below, rfl, rfl⟩

theorem Content.place_of_mem_placed
    {number : Nat} {c : Content} {p : Placed} (h : p ∈ c.placed number) :
  ∃ i place, number ≤ i ∧ p.place = i :: place
  := by
  obtain ⟨i, place, -, start, -⟩ := mem_placed_iff.mp h
  exact ⟨number + i, place, Nat.le_add_right number i, start⟩

/-- What is below a child comes before its later siblings. -/
theorem Content.cons_lt_of_mem_placed
    {number : Nat} {c : Content} {p : Placed} (h : p ∈ c.placed (number + 1)) (place : Place) :
  number :: place < p.place
  := by
  obtain ⟨i, place', after, start⟩ := place_of_mem_placed h
  rw [start]
  exact List.cons_lt_cons_iff.mpr (.inl after)

theorem Content.pairwise_placed (number : Nat) (c : Content) :
  (c.placed number).Pairwise (·.place < ·.place)
  := by
  induction c generalizing number with
  | nil => exact .nil
  | text s rest ih =>
    rw [placed, List.pairwise_cons]
    exact ⟨fun p later => cons_lt_of_mem_placed later [], ih (number + 1)⟩
  | element tag inner rest inner_ih rest_ih =>
    -- the element stands first, then what it holds, then its siblings with greater numbers
    rw [placed, List.pairwise_cons, List.pairwise_append]
    refine ⟨?_, ?_, rest_ih (number + 1), ?_⟩
    · intro p hp
      rcases List.mem_append.mp hp with inside | later
      · obtain ⟨q, below, rfl⟩ := List.mem_map.mp inside
        obtain ⟨i, place, -, start⟩ := place_of_mem_placed below
        apply List.cons_lt_cons_iff.mpr
        rw [start]
        exact .inr ⟨rfl, List.nil_lt_cons i place⟩
      · exact cons_lt_of_mem_placed later []
    · apply (inner_ih 0).map
      intro p q order
      exact List.cons_lt_cons_iff.mpr (.inr ⟨rfl, order⟩)
    · intro p inside q later
      obtain ⟨p, -, rfl⟩ := List.mem_map.mp inside
      exact cons_lt_of_mem_placed later p.place

theorem isDocumentOrder_below (e : Element) :
  IsDocumentOrder e e.below
  := by
  constructor
  · exact Content.pairwise_placed 0 e.content
  · intro p
    rw [Element.below, Content.mem_placed_iff, at?_element_eq_some]
    constructor
    · intro stands
      have start : p.place ≠ [] := by
        obtain ⟨i, place, -, start, -⟩ := stands
        simp [start]
      exact ⟨start, .inr stands⟩
    · rintro ⟨start, ⟨own, -⟩ | stands⟩
      · contradiction
      · exact stands

/-! ### What searches find -/

/-- The element that stands at a place, if it has this namespace and local name. -/
def Placed.elementNamed? (ns localName : String) (p : Placed) : Option Element :=
  match p.node with
  | .text _ => none
  | .element e => if e.is ns localName then some e else none

/-- The text that stands at a place, if one does. -/
def Placed.text? (p : Placed) : Option String :=
  match p.node with
  | .text s => some s
  | .element _ => none

/-- A node at a place is a child. -/
def Placed.isChild (p : Placed) : Bool :=
  p.place.length == 1

section

variable (ns localName : String)

theorem Content.filterMap_elementNamed?_placed (number : Nat) (c : Content) :
  (c.placed number).filterMap (Placed.elementNamed? ns localName)
    = c.descendants.filter (·.is ns localName)
  := by
  induction c generalizing number with
  | nil => rfl
  | text s rest ih => exact ih (number + 1)
  | element tag inner rest inner_ih rest_ih =>
    have within : Placed.elementNamed? ns localName ∘ Placed.within number
        = Placed.elementNamed? ns localName := rfl
    rw [placed, descendants, List.filterMap_cons, List.filterMap_append, List.filterMap_map, within,
      inner_ih, rest_ih, List.filter_cons, List.filter_append]
    cases named : Element.is ⟨tag, inner⟩ ns localName <;> simp [Placed.elementNamed?, named]

/-- Nothing that stands below a child is a child. -/
theorem Content.filter_isChild_within (number : Nat) (c : Content) :
  ((c.placed 0).map (Placed.within number)).filter Placed.isChild = []
  := by
  rw [List.filter_eq_nil_iff]
  intro p inside
  obtain ⟨q, below, rfl⟩ := List.mem_map.mp inside
  obtain ⟨i, place, -, start⟩ := place_of_mem_placed below
  simp [Placed.isChild, Placed.within, start]

theorem Content.filterMap_elementNamed?_isChild (number : Nat) (c : Content) :
  ((c.placed number).filter Placed.isChild).filterMap (Placed.elementNamed? ns localName)
    = c.children.filter (·.is ns localName)
  := by
  induction c generalizing number with
  | nil => rfl
  | text s rest ih => exact ih (number + 1)
  | element tag inner rest _ ih =>
    have child : Placed.isChild ⟨[number], .element ⟨tag, inner⟩⟩ = true := rfl
    rw [placed, children, List.filter_cons_of_pos child, List.filter_append, filter_isChild_within,
      List.nil_append, List.filterMap_cons, ih, List.filter_cons]
    cases named : Element.is ⟨tag, inner⟩ ns localName <;> simp [Placed.elementNamed?, named]

theorem Content.filterMap_text?_placed (number : Nat) (c : Content) :
  (c.placed number).filterMap Placed.text? = c.texts
  := by
  induction c generalizing number with
  | nil => rfl
  | text s rest ih =>
    rw [placed, texts, ← ih (number + 1)]
    rfl
  | element tag inner rest inner_ih rest_ih =>
    have within : Placed.text? ∘ Placed.within number = Placed.text? := rfl
    have element : Placed.text? ⟨[number], .element ⟨tag, inner⟩⟩ = none := rfl
    rw [placed, texts, List.filterMap_cons_none element, List.filterMap_append, List.filterMap_map,
      within, inner_ih, rest_ih]

/-- The search that stops at the first element finds the first of all. -/
theorem Content.findDescendant?_eq_find? (c : Content) :
  c.findDescendant? ns localName = c.descendants.find? (·.is ns localName)
  := by
  induction c with
  | nil => rfl
  | text s rest ih => exact ih
  | element tag inner rest inner_ih rest_ih =>
    rw [findDescendant?, descendants, List.find?_cons, List.find?_append, Element.is, inner_ih,
      rest_ih]
    cases tag.is ns localName <;> rfl

/-- The search that collects elements puts all of them behind what it has. -/
theorem Content.collectDescendants_eq_append (collected : List Element) (c : Content) :
  c.collectDescendants ns localName collected
    = collected ++ c.descendants.filter (·.is ns localName)
  := by
  induction c generalizing collected with
  | nil => exact (List.append_nil collected).symm
  | text s rest ih => exact ih collected
  | element tag inner rest inner_ih rest_ih =>
    rw [collectDescendants, rest_ih, inner_ih, descendants, List.filter_cons, List.filter_append,
      Element.is]
    cases tag.is ns localName <;> simp

theorem Content.collectText_eq_append (written : String) (c : Content) :
  c.collectText written = written ++ c.allText
  := by
  rw [allText]
  induction c generalizing written with
  | nil => exact String.append_empty.symm
  | text s rest ih => rw [collectText, ih, texts, String.join_cons, String.append_assoc]
  | element tag inner rest inner_ih rest_ih =>
    rw [collectText, rest_ih, inner_ih, texts, String.join_append, String.append_assoc]

theorem Element.intoChildren_eq_children (e : Element) :
  e.intoChildren = e.children
  := by
  obtain ⟨tag, content⟩ := e
  rw [intoChildren, children]
  induction content with
  | nil => rfl
  | text s rest ih => exact ih
  | element tag inner rest _ ih =>
    rw [Content.nodes, Content.children, ← ih]
    rfl

end

/-- What searches in an element find among the nodes below it. -/
structure Finds (e : Element) (ns localName : String) (below : List Placed) : Prop where
  /-- All elements with this namespace and local name, those within one another included. -/
  descendants : e.findDescendants ns localName = below.filterMap (·.elementNamed? ns localName)
  collected : e.content.collectDescendants ns localName [] = e.findDescendants ns localName
  first : e.findDescendant? ns localName = (e.findDescendants ns localName).head?
  none_iff : e.findDescendant? ns localName = none ↔ e.findDescendants ns localName = []
  children : e.findChildren ns localName
    = (below.filter Placed.isChild).filterMap (·.elementNamed? ns localName)
  among : (e.findChildren ns localName).Sublist (e.findDescendants ns localName)
  firstChild : e.findChild? ns localName = (e.findChildren ns localName).head?
  /-- The children of an element that is given up are searched alike. -/
  intoChild : e.intoChild? ns localName = (e.findChildren ns localName).head?
  text : e.text = String.join (below.filterMap Placed.text?)
  written : e.content.collectText "" = e.text

theorem finds_below (e : Element) (ns localName : String) :
  Finds e ns localName e.below
  := by
  have descendants : e.findDescendants ns localName
      = e.below.filterMap (·.elementNamed? ns localName) :=
    (Content.filterMap_elementNamed?_placed ns localName 0 e.content).symm
  have children : e.findChildren ns localName
      = (e.below.filter Placed.isChild).filterMap (·.elementNamed? ns localName) :=
    (Content.filterMap_elementNamed?_isChild ns localName 0 e.content).symm
  have first : e.findDescendant? ns localName = (e.findDescendants ns localName).head? := by
    rw [Element.findDescendants, List.head?_filter]
    exact Content.findDescendant?_eq_find? ns localName e.content
  have firstChild : e.findChild? ns localName = (e.findChildren ns localName).head? := by
    rw [Element.findChildren, List.head?_filter, Element.findChild?]
  constructor
  · exact descendants
  · rw [Content.collectDescendants_eq_append, List.nil_append]
    rfl
  · exact first
  · rw [first, List.head?_eq_none_iff]
  · exact children
  · rw [children, descendants]
    exact List.filter_sublist.filterMap _
  · exact firstChild
  · rw [Element.intoChild?, Element.intoChildren_eq_children, ← firstChild, Element.findChild?]
  · rw [Element.text, Content.allText, Element.below, Content.filterMap_text?_placed]
  · rw [Content.collectText_eq_append, String.empty_append, Element.text]

/-- All searches in an element agree: what each finds stands in the one list of all nodes below the
element in document order. -/
theorem searches_agree (e : Element) (ns localName : String) :
  ∃! below, IsDocumentOrder e below ∧ Finds e ns localName below
  := by
  use e.below
  constructor
  · exact ⟨isDocumentOrder_below e, finds_below e ns localName⟩
  · rintro below ⟨order, -⟩
    exact order.unique (isDocumentOrder_below e)

end OlapClient.Markup
