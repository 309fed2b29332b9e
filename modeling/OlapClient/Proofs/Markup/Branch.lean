import Mathlib.Tactic.Common
import OlapClient.Proofs.Markup.Plain

/-!
# Elements built in a scope

`Scope.tag` is the tag that a written name and written attributes stand for in a scope.  A
`branch` is such a tag around elements and a `leaf` is one around a text.  Both fit the scope
they were built in, whatever the texts, and `plain` writes a branch as its elements one after the
other.
-/

namespace OlapClient.Markup

/-! ### Content made of elements, or of one text -/

namespace Content

/-- Elements one after the other. -/
def ofElements : List Element → Content
  | [] => nil
  | e :: rest => element e.tag e.content (ofElements rest)

/-- One text; nothing where it is empty. -/
def ofText (s : String) : Content :=
  if s = "" then nil else text s nil

@[simp]
theorem nodes_ofElements (l : List Element) :
  (ofElements l).nodes = l.map .element
  := by
  induction l with
  | nil => rfl
  | cons e l ih => simp [ofElements, nodes, ih]

@[simp]
theorem children_ofElements (l : List Element) :
  (ofElements l).children = l
  := by
  induction l with
  | nil => rfl
  | cons e l ih => simp [ofElements, children, ih]

@[simp]
theorem descendants_ofElements (l : List Element) :
  (ofElements l).descendants = l.flatMap fun e => e :: e.descendants
  := by
  induction l with
  | nil => rfl
  | cons e l ih =>
    simp only [ofElements, descendants, ih, List.flatMap_cons, List.cons_append]
    rfl

@[simp]
theorem allText_ofText (s : String) :
  (ofText s).allText = s
  := by
  unfold ofText
  split
  · rename_i empty
    rw [empty]
    rfl
  · simp [allText, texts]

theorem plain_ofElements (l : List Element) :
  (ofElements l).plain = l.flatMap Element.plain
  := by
  induction l with
  | nil => rfl
  | cons e l ih => simp [ofElements, plain, Element.plain, ih]

@[simp]
theorem plain_ofText (s : String) :
  (ofText s).plain = escape isMarkupOrQuote s.toList
  := by
  unfold ofText
  split
  · rename_i empty
    rw [empty]
    rfl
  · simp [plain]

theorem fits_ofElements {l : List Element} {scope : Scope} (h : ∀ e ∈ l, e.Fits scope) :
  (ofElements l).Fits scope
  := by
  induction l with
  | nil => trivial
  | cons e l ih =>
    constructor
    · apply h e (by simp)
    · apply ih fun e' he' => h e' (by simp [he'])

theorem fits_ofText (s : String) (scope : Scope) :
  (ofText s).Fits scope
  := by
  unfold ofText
  split
  · trivial
  · rename_i some_text
    exact ⟨some_text, rfl, trivial⟩

end Content

/-! ### Tags, branches and leaves of a scope -/

namespace Scope

/-- The attribute that a written name and a value stand for within a tag. -/
def attributeOf (within : Scope) (item : String × String) : Attribute where
  qname := item.1
  ns := within.ofAttributeName item.1.toList
  localName := String.ofList (splitName item.1.toList).2
  value := item.2

/-- The tag that a written name and written attributes stand for, given the scope within it. -/
def tag (within : Scope) (qname : String) (attributes : List (String × String)) : Tag where
  qname := qname
  ns := within.ofElementName qname.toList
  localName := String.ofList (splitName qname.toList).2
  attributes := attributes.map within.attributeOf

/-- An element around elements. -/
def branch
    (within : Scope) (qname : String) (attributes : List (String × String))
    (children : List Element) : Element :=
  ⟨within.tag qname attributes, .ofElements children⟩

/-- An element without attributes around a text. -/
def leaf (within : Scope) (qname text : String) : Element :=
  ⟨within.tag qname [], .ofText text⟩

variable {around within : Scope} {qname : String} {attributes : List (String × String)}

@[simp]
theorem children_branch (children : List Element) :
  (within.branch qname attributes children).children = children
  := Content.children_ofElements children

@[simp]
theorem nodes_branch (children : List Element) :
  (within.branch qname attributes children).content.nodes = children.map .element
  := Content.nodes_ofElements children

@[simp]
theorem descendants_branch (children : List Element) :
  (within.branch qname attributes children).descendants
    = children.flatMap fun e => e :: e.descendants
  := Content.descendants_ofElements children

@[simp]
theorem text_leaf (text : String) :
  (within.leaf qname text).text = text
  := Content.allText_ofText text

/-- The name of a branch has nothing to do with its attributes and its children. -/
theorem is_branch {ns localName : String} (children : List Element) :
  (within.branch qname attributes children).is ns localName
    = (within.tag qname []).is ns localName
  := rfl

theorem localName_branch (children : List Element) :
  (within.branch qname attributes children).tag.localName = (within.tag qname []).localName
  := rfl

/-- A child is found where it is the first of its name. -/
theorem findChild?_branch_cons
    {ns localName : String} {child : Element} (h : child.is ns localName)
    (children : List Element) :
  (within.branch qname attributes (child :: children)).findChild? ns localName = some child
  := by
  rw [Element.findChild?, children_branch, List.find?_cons, h]

theorem findChild?_branch_of_not_is
    {ns localName : String} {child : Element} (h : child.is ns localName = false) :
  (within.branch qname attributes [child]).findChild? ns localName = none
  := by
  rw [Element.findChild?, children_branch, List.find?_cons, h]
  rfl

/-- The names of a tag are readable and the tag declares the bindings between two scopes. -/
structure Allows
    (around within : Scope) (qname : String) (attributes : List (String × String)) : Prop where
  name : isNameToken qname.toList
  keys : ∀ item ∈ attributes, isNameToken item.1.toList
  distinct : (attributes.map (·.1)).Nodup
  declares : around.declare
    (attributes.map fun item => (item.1.toList, escape isMarkupOrQuote item.2.toList)) = some within

theorem Allows.fits (h : around.Allows within qname attributes) :
  (within.tag qname attributes).Fits around within
  := by
  constructor
  · apply h.name
  · intro a ha
    obtain ⟨item, hitem, rfl⟩ := List.mem_map.mp ha
    apply h.keys item hitem
  · simpa [tag, attributeOf, Function.comp_def] using h.distinct
  · rw [Tag.source, tag, List.map_map]
    apply h.declares
  · rfl
  · rfl
  · intro a ha
    obtain ⟨item, -, rfl⟩ := List.mem_map.mp ha
    exact ⟨rfl, rfl⟩

theorem Allows.fits_branch
    (h : around.Allows within qname attributes) {children : List Element}
    (fits : ∀ e ∈ children, e.Fits within) :
  (within.branch qname attributes children).Fits around
  := ⟨within, h.fits, Content.fits_ofElements fits⟩

/-- An attribute of this name declares a namespace. -/
def isDeclaring (key : List Char) : Bool :=
  key = "xmlns".toList || "xmlns:".toList.isPrefixOf key

theorem declaration_of_not_isDeclaring
    {item : List Char × List Char} (h : isDeclaring item.1 = false) :
  declaration item = .none
  := by
  simp only [isDeclaring, Bool.or_eq_false_iff, decide_eq_false_iff_not] at h
  obtain ⟨default, label⟩ := h
  simp only [declaration, if_neg default, label, Bool.false_eq_true, if_false]

theorem declare_of_forall
    (scope : Scope) {items : List (List Char × List Char)}
    (plain : ∀ item ∈ items, isDeclaring item.1 = false) :
  scope.declare items = some scope
  := by
  induction items with
  | nil => rfl
  | cons item items ih =>
    rw [declare, declaration_of_not_isDeclaring (plain item (by simp))]
    apply ih fun item' hitem' => plain item' (by simp [hitem'])

/-- A tag none of whose attributes declares a namespace is allowed in every scope. -/
theorem allows_plain
    (scope : Scope) (name : isNameToken qname.toList)
    (keys : ∀ item ∈ attributes, isNameToken item.1.toList)
    (distinct : (attributes.map (·.1)).Nodup)
    (plain : ∀ item ∈ attributes, isDeclaring item.1.toList = false) :
  scope.Allows scope qname attributes
  := by
  constructor
  · apply name
  · apply keys
  · apply distinct
  · apply declare_of_forall
    intro item hitem
    obtain ⟨source, hsource, rfl⟩ := List.mem_map.mp hitem
    apply plain source hsource

/-- A tag without attributes is allowed in every scope. -/
theorem allows_bare (scope : Scope) (h : isNameToken qname.toList) :
  scope.Allows scope qname []
  := by
  apply allows_plain scope h <;> simp

theorem fits_leaf (scope : Scope) (h : isNameToken qname.toList) (text : String) :
  (scope.leaf qname text).Fits scope
  := ⟨scope, (allows_bare scope h).fits, Content.fits_ofText text scope⟩

/-- A name without a colon has the default namespace and is its own local part. -/
theorem splitName_of_isNCName {name : List Char} (h : isNCName name) :
  splitName name = (none, name)
  := by
  have absent : Text.cut (· == ':') name = none := by
    have apart := colon_not_mem_of_isNCName h
    clear h
    induction name with
    | nil => rfl
    | cons c name ih =>
      simp only [List.mem_cons, not_or] at apart
      simp [Text.cut, Ne.symm apart.1, ih apart.2]
  simp [splitName, absent]

theorem ns_tag_of_isNCName (h : isNCName qname.toList) :
  (within.tag qname attributes).ns = within.lookup []
  := by
  simp [tag, ofElementName, splitName_of_isNCName h]

theorem localName_tag_of_isNCName (h : isNCName qname.toList) :
  (within.tag qname attributes).localName = qname
  := by
  simp [tag, splitName_of_isNCName h]

end Scope

end OlapClient.Markup
