import Mathlib.Tactic.Common
import OlapClient.Proofs.Protocol.Request

/-!
# What a reader finds in a request

Whatever stands in a buffer, a written request is added after it, and the document that was added
is an envelope around a body around the element of the operation.  The statement, the
restrictions and the properties are the texts of its elements, with nothing beside them, nothing
lost and nothing out of order.
-/

namespace OlapClient.Protocol

open OlapClient.Markup
open OlapClient.Text

/-! ### Shapes of elements -/

/-- The namespace, the local name and the text of an element. -/
def field (e : Element) : Option String × String × String :=
  (e.tag.ns, e.tag.localName, e.text)

/-- An element has this name, and these elements are all that stands in it. -/
def Encloses (e : Element) (ns localName : String) (children : List Element) : Prop :=
  e.is ns localName ∧ e.content.nodes = children.map .element

/-- An element has this name, and all that stands in it are elements of the same namespace with
these names and texts. -/
def Lists (e : Element) (ns localName : String) (items : List (String × String)) : Prop :=
  ∃ children, Encloses e ns localName children
    ∧ children.map field = items.map fun item => (some ns, item.1, item.2)

/-- An envelope has one body, the body one element of this name, and these elements are all that
stands in it. -/
def Carries (envelope : Element) (name : String) (children : List Element) : Prop :=
  ∃ body operation, Encloses envelope soapNs "Envelope" [body]
    ∧ Encloses body soapNs "Body" [operation]
    ∧ Encloses operation xmlaNs name children

theorem encloses_branch
    {within : Scope} {qname : String} {attributes : List (String × String)} {ns localName : String}
    (named : (within.tag qname attributes).is ns localName) (children : List Element) :
  Encloses (within.branch qname attributes children) ns localName children
  := ⟨named, Scope.nodes_branch children⟩

theorem field_leaf {qname : String} (h : isNCName qname.toList) (text : String) :
  field (operationScope.leaf qname text) = (some xmlaNs, qname, text)
  := by
  have ns : operationScope.lookup [] = some xmlaNs := by decide
  have parts : (operationScope.leaf qname text).text = text := Scope.text_leaf text
  rw [field, parts, Scope.leaf, Scope.ns_tag_of_isNCName h, Scope.localName_tag_of_isNCName h, ns]

/-- Leaves are listed with their names and texts. -/
theorem lists_leaves
    {qname : String} (named : (operationScope.tag qname []).is xmlaNs qname)
    {items : List (String × String)} (h : ∀ item ∈ items, isNCName item.1.toList) :
  Lists (operationScope.branch qname [] (leaves operationScope items)) xmlaNs qname items
  := by
  use leaves operationScope items
  constructor
  · apply encloses_branch named
  · rw [leaves, List.map_map]
    apply List.map_congr_left
    intro item hitem
    apply field_leaf (h item hitem)

/-- The properties of a request are listed in their element, those of the session first. -/
theorem Request.encloses_propertiesTree (request : Request) (properties : Properties) :
  ∃ list, Encloses (propertiesTree (properties.fields ++ request.ownProperties)) xmlaNs "Properties"
      [list]
    ∧ Lists list xmlaNs "PropertyList" (properties.fields ++ request.ownProperties)
  := by
  use operationScope.branch "PropertyList" []
    (leaves operationScope (properties.fields ++ request.ownProperties))
  constructor
  · apply encloses_branch (by decide)
  · apply lists_leaves (by decide) (request.isNCName_properties properties)

theorem Request.carries_tree (request : Request) (properties : Properties) :
  Carries (request.tree properties) request.operation.requestName
    (request.questionTrees ++ [propertiesTree (properties.fields ++ request.ownProperties)])
  := by
  use request.bodyTree properties, request.operationTree properties
  constructor
  · apply encloses_branch (by decide)
  constructor
  · apply encloses_branch (by decide)
  · apply encloses_branch
    cases request.operation <;> decide

/-! ### Requests as they are read -/

/-- A request to run a statement is read as that statement, with the properties that are set,
the format and, for a multidimensional result, the format of its axes. -/
theorem readDocument_write_execute
    (written : Octets) (statement : String) (properties : Properties) (format : Format) :
  ∃ document envelope command question settings list,
    (Request.execute statement format).write properties written = written ++ document
    ∧ readDocument document = .ok envelope
    ∧ Carries envelope "Execute" [command, settings]
    ∧ Encloses command xmlaNs "Command" [question]
    ∧ field question = (some xmlaNs, "Statement", statement)
    ∧ Encloses settings xmlaNs "Properties" [list]
    ∧ Lists list xmlaNs "PropertyList"
      (properties.fields ++ ("Format", format.name)
        :: if format = .multidimensional then [("AxisFormat", "TupleFormat")] else [])
  := by
  let request := Request.execute statement format
  have own : request.ownProperties = ("Format", format.name)
      :: if format = .multidimensional then [("AxisFormat", "TupleFormat")] else [] := by
    cases format <;> rfl
  obtain ⟨list, settings_eq, list_eq⟩ := request.encloses_propertiesTree properties
  use encode (request.text properties), request.tree properties,
    operationScope.branch "Command" [] [operationScope.leaf "Statement" statement],
    operationScope.leaf "Statement" statement,
    propertiesTree (properties.fields ++ request.ownProperties), list
  constructor
  · rfl
  constructor
  · apply Request.readDocument_text
    trivial
  constructor
  · apply request.carries_tree properties
  constructor
  · apply encloses_branch (by decide)
  constructor
  · apply field_leaf (by decide)
  constructor
  · apply settings_eq
  · rw [← own]
    apply list_eq

/-- A request for metadata is read as its type, its restrictions in order, and the properties
that are set. -/
theorem readDocument_write_discover
    (written : Octets) (requestType : String) (restrictions : List (String × String))
    (properties : Properties) (names : ∀ item ∈ restrictions, isNCName item.1.toList) :
  ∃ document envelope type restricted restrictionList settings list,
    (Request.discover requestType restrictions).write properties written = written ++ document
    ∧ readDocument document = .ok envelope
    ∧ Carries envelope "Discover" [type, restricted, settings]
    ∧ field type = (some xmlaNs, "RequestType", requestType)
    ∧ Encloses restricted xmlaNs "Restrictions" [restrictionList]
    ∧ Lists restrictionList xmlaNs "RestrictionList" restrictions
    ∧ Encloses settings xmlaNs "Properties" [list]
    ∧ Lists list xmlaNs "PropertyList"
      (properties.fields ++ [("Format", Format.tabular.name), ("Content", "SchemaData")])
  := by
  let request := Request.discover requestType restrictions
  obtain ⟨list, settings_eq, list_eq⟩ := request.encloses_propertiesTree properties
  use encode (request.text properties), request.tree properties,
    operationScope.leaf "RequestType" requestType,
    operationScope.branch "Restrictions" []
      [operationScope.branch "RestrictionList" [] (leaves operationScope restrictions)],
    operationScope.branch "RestrictionList" [] (leaves operationScope restrictions),
    propertiesTree (properties.fields ++ request.ownProperties), list
  constructor
  · rfl
  constructor
  · have named : request.Named := names
    apply Request.readDocument_text named
  constructor
  · apply request.carries_tree properties
  constructor
  · apply field_leaf (by decide)
  constructor
  · apply encloses_branch (by decide)
  constructor
  · apply lists_leaves (by decide) names
  constructor
  · apply settings_eq
  · apply list_eq

/-- Two restrictions of one name, one of them on a text that looks like markup. -/
theorem readDocument_write_discover_repeated :
  (∀ item ∈ [("CUBE_NAME", "a</CUBE_NAME>&lt;"), ("CUBE_NAME", "")], isNCName item.1.toList)
    ∧ ∃ document envelope type restricted restrictionList settings list,
      (Request.discover "MDSCHEMA_CUBES"
        [("CUBE_NAME", "a</CUBE_NAME>&lt;"), ("CUBE_NAME", "")]).write .none [0x20]
        = [0x20] ++ document
      ∧ readDocument document = .ok envelope
      ∧ Carries envelope "Discover" [type, restricted, settings]
      ∧ field type = (some xmlaNs, "RequestType", "MDSCHEMA_CUBES")
      ∧ Encloses restricted xmlaNs "Restrictions" [restrictionList]
      ∧ Lists restrictionList xmlaNs "RestrictionList"
        [("CUBE_NAME", "a</CUBE_NAME>&lt;"), ("CUBE_NAME", "")]
      ∧ Encloses settings xmlaNs "Properties" [list]
      ∧ Lists list xmlaNs "PropertyList"
        (Properties.none.fields ++ [("Format", Format.tabular.name), ("Content", "SchemaData")])
  := by
  have names : ∀ item ∈ [("CUBE_NAME", "a</CUBE_NAME>&lt;"), ("CUBE_NAME", "")],
      isNCName item.1.toList := by decide
  constructor
  · apply names
  · apply readDocument_write_discover [0x20] "MDSCHEMA_CUBES" _ .none names

end OlapClient.Protocol
