/-!
# Elements

An `Element` is a tag with the content between its start and its end.  `Content` is a
sequence of texts and elements, built from the front; `Content.nodes` is the same sequence
as a list.  The searches `find…` match the namespace and the local name exactly.  `children`
are direct, `descendants` stand at any depth, and both come in document order.
-/

namespace OlapClient.Markup

/-- An attribute of a tag. -/
structure Attribute where
  /-- The name as written, with its prefix. -/
  qname : String
  ns : Option String
  localName : String
  value : String
  deriving DecidableEq, Repr

/-- The tag of an element: its names and its attributes. -/
structure Tag where
  /-- The name as written, with its prefix. -/
  qname : String
  ns : Option String
  localName : String
  attributes : List Attribute
  deriving DecidableEq, Repr

/-- What stands between the start and the end of an element: nothing, a text and what follows
it, or an element and what follows it. -/
inductive Content where
  | nil
  | text (s : String) (rest : Content)
  | element (tag : Tag) (inner : Content) (rest : Content)
  deriving DecidableEq, Repr

/-- A tag with its content. -/
structure Element where
  tag : Tag
  content : Content
  deriving DecidableEq, Repr

/-- A child of an element. -/
inductive Node where
  | text (s : String)
  | element (e : Element)
  deriving DecidableEq, Repr

namespace Tag

/-- A tag has exactly this namespace and local name. -/
def is (t : Tag) (ns localName : String) : Bool :=
  t.localName == localName && t.ns == some ns

/-- The value of the first attribute with this name as written. -/
def valueOf? (t : Tag) (qname : String) : Option String :=
  (t.attributes.find? (·.qname == qname)).map (·.value)

/-- The value of the first attribute with this namespace and local name. -/
def valueOfNs? (t : Tag) (ns localName : String) : Option String :=
  (t.attributes.find? fun a => a.localName == localName && a.ns == some ns).map (·.value)

end Tag

namespace Content

/-- The sequence of children. -/
def nodes : Content → List Node
  | nil => []
  | text s rest => .text s :: rest.nodes
  | element tag inner rest => .element ⟨tag, inner⟩ :: rest.nodes

/-- The content with a given sequence of children. -/
def ofNodes : List Node → Content
  | [] => nil
  | .text s :: rest => text s (ofNodes rest)
  | .element e :: rest => element e.tag e.content (ofNodes rest)

/-- The elements among the children. -/
def children : Content → List Element
  | nil => []
  | text _ rest => rest.children
  | element tag inner rest => ⟨tag, inner⟩ :: rest.children

/-- The elements at any depth; an element comes before those within it. -/
def descendants : Content → List Element
  | nil => []
  | text _ rest => rest.descendants
  | element tag inner rest => ⟨tag, inner⟩ :: (inner.descendants ++ rest.descendants)

/-- The texts at any depth, in order. -/
def texts : Content → List String
  | nil => []
  | text s rest => s :: rest.texts
  | element _ inner rest => inner.texts ++ rest.texts

/-- All texts at any depth as one, in order. -/
def allText (c : Content) : String :=
  String.join c.texts

/-- The first element at any depth with this namespace and local name. -/
def findDescendant? (ns localName : String) : Content → Option Element
  | nil => none
  | text _ rest => rest.findDescendant? ns localName
  | element tag inner rest =>
    if tag.is ns localName then some ⟨tag, inner⟩
    else (inner.findDescendant? ns localName).or (rest.findDescendant? ns localName)

/-- The elements at any depth with this namespace and local name, behind those that are collected
already. -/
def collectDescendants (ns localName : String) (collected : List Element) :
    Content → List Element
  | nil => collected
  | text _ rest => rest.collectDescendants ns localName collected
  | element tag inner rest =>
    let found := if tag.is ns localName then collected ++ [⟨tag, inner⟩] else collected
    rest.collectDescendants ns localName (inner.collectDescendants ns localName found)

/-- The texts at any depth, written behind a text. -/
def collectText (written : String) : Content → String
  | nil => written
  | text s rest => rest.collectText (written ++ s)
  | element _ inner rest => rest.collectText (inner.collectText written)

@[simp]
theorem nodes_ofNodes (l : List Node) :
  (ofNodes l).nodes = l
  := by
  induction l with
  | nil => rfl
  | cons n l ih => cases n <;> simp [ofNodes, nodes, ih]

@[simp]
theorem ofNodes_nodes (c : Content) :
  ofNodes c.nodes = c
  := by
  induction c with
  | nil => rfl
  | text s rest ih => simp [nodes, ofNodes, ih]
  | element tag inner rest _ ih => simp [nodes, ofNodes, ih]

end Content

namespace Element

/-- The name as written. -/
def qname (e : Element) : String :=
  e.tag.qname

/-- An element has exactly this namespace and local name. -/
def is (e : Element) (ns localName : String) : Bool :=
  e.tag.is ns localName

/-- The value of the first attribute with this name as written. -/
def valueOf? (e : Element) (qname : String) : Option String :=
  e.tag.valueOf? qname

/-- The value of the first attribute with this name as written; empty where there is none. -/
def valueOf (e : Element) (qname : String) : String :=
  (e.valueOf? qname).getD ""

/-- The value of the first attribute with this namespace and local name. -/
def valueOfNs? (e : Element) (ns localName : String) : Option String :=
  e.tag.valueOfNs? ns localName

/-- The elements among the children. -/
def children (e : Element) : List Element :=
  e.content.children

/-- The elements below an element, at any depth. -/
def descendants (e : Element) : List Element :=
  e.content.descendants

/-- All texts below an element, in order. -/
def text (e : Element) : String :=
  e.content.allText

/-- The first child with this namespace and local name. -/
def findChild? (e : Element) (ns localName : String) : Option Element :=
  e.children.find? (·.is ns localName)

/-- The children with this namespace and local name. -/
def findChildren (e : Element) (ns localName : String) : List Element :=
  e.children.filter (·.is ns localName)

/-- The elements among the children of an element that is given up. -/
def intoChildren (e : Element) : List Element :=
  e.content.nodes.filterMap fun
    | .element child => some child
    | .text _ => none

/-- The first child with this namespace and local name of an element that is given up. -/
def intoChild? (e : Element) (ns localName : String) : Option Element :=
  e.intoChildren.find? (·.is ns localName)

/-- The first element below with this namespace and local name. -/
def findDescendant? (e : Element) (ns localName : String) : Option Element :=
  e.content.findDescendant? ns localName

/-- The elements below with this namespace and local name. -/
def findDescendants (e : Element) (ns localName : String) : List Element :=
  e.descendants.filter (·.is ns localName)

/-- The text of the first child with this namespace and local name. -/
def childText? (e : Element) (ns localName : String) : Option String :=
  (e.findChild? ns localName).map text

end Element

end OlapClient.Markup
