import Mathlib.Tactic.Common
import OlapClient.Proofs.Markup.Branch
import OlapClient.Protocol.Request

/-!
# Requests read back

A written request is a document, and `Request.tree` is the element that reading it gives: an
envelope around a body around the element of the operation.  What the caller put in, the
statement, the restrictions and the properties, stands in it as the texts of elements, character
for character and in order.
-/

namespace OlapClient.Protocol

open OlapClient.Markup
open OlapClient.Text

/-! ### Branches and leaves as requests write them -/

/-- The tag that opens an element, with its attributes. -/
def openingText (qname : String) (attributes : List (String × String)) : List Char :=
  '<' :: qname.toList ++ (attributes.flatMap fun item => attributeText item.1 item.2) ++ ['>']

theorem plain_branch
    (within : Scope) (qname : String) (attributes : List (String × String))
    (children : List Element) :
  (within.branch qname attributes children).plain
    = openingText qname attributes ++ children.flatMap Element.plain ++ endTag qname
  := by
  have written : (within.tag qname attributes).written
      = qname.toList ++ attributes.flatMap fun item => attributeText item.1 item.2 := by
    rw [Tag.written, Scope.tag, List.flatMap_map]
    rfl
  rw [Element.plain, Scope.branch, Content.plain, written, Content.plain_ofElements]
  simp [Content.plain, openingText, endTag, Scope.tag]

theorem plain_bare (within : Scope) (qname : String) (children : List Element) :
  (within.branch qname [] children).plain = enclose qname (children.flatMap Element.plain)
  := by
  simp [plain_branch, openingText, enclose, startTag]

theorem plain_leaf (within : Scope) (qname text : String) :
  (within.leaf qname text).plain = textElement qname text
  := by
  have written : (within.tag qname []).written = qname.toList := by
    simp [Tag.written, Scope.tag]
  rw [Element.plain, Scope.leaf, Content.plain, written, Content.plain_ofText]
  simp [Content.plain, textElement, enclose, startTag, endTag, Scope.tag]

/-- Leaves of a scope, for names and texts. -/
def leaves (within : Scope) (items : List (String × String)) : List Element :=
  items.map fun item => within.leaf item.1 item.2

theorem plain_leaves (within : Scope) (items : List (String × String)) :
  (leaves within items).flatMap Element.plain
    = items.flatMap fun item => textElement item.1 item.2
  := by
  simp [leaves, List.flatMap_map, plain_leaf]

theorem fits_leaves
    {items : List (String × String)} (h : ∀ item ∈ items, isNameToken item.1.toList)
    (within : Scope) :
  ∀ e ∈ leaves within items, e.Fits within
  := by
  intro e he
  obtain ⟨item, hitem, rfl⟩ := List.mem_map.mp he
  apply Scope.fits_leaf within (h item hitem)

/-! ### The element of a request -/

/-- The bindings within the envelope of a request. -/
def envelopeScope : Scope :=
  ⟨"SOAP-ENV".toList, soapNs.toList⟩ :: Scope.initial

/-- The bindings within the element of an operation. -/
def operationScope : Scope :=
  ⟨[], xmlaNs.toList⟩ :: envelopeScope

/-- The attributes of the envelope of a request. -/
def envelopeAttributes : List (String × String) :=
  [("xmlns:SOAP-ENV", soapNs), ("SOAP-ENV:encodingStyle", soapEncoding)]

/-- The properties that are set, in the order in which they are sent. -/
def Properties.fields (properties : Properties) : List (String × String) :=
  [("DataSourceInfo", properties.dataSourceInfo), ("Catalog", properties.catalog),
    ("Roles", properties.roles)].filterMap fun item => item.2.map (item.1, ·)

/-- The element that lists properties. -/
def propertiesTree (items : List (String × String)) : Element :=
  operationScope.branch "Properties" []
    [operationScope.branch "PropertyList" [] (leaves operationScope items)]

namespace Request

/-- What a request asks, as elements. -/
def questionTrees : Request → List Element
  | .execute statement _ =>
    [operationScope.branch "Command" [] [operationScope.leaf "Statement" statement]]
  | .discover requestType restrictions =>
    [operationScope.leaf "RequestType" requestType,
      operationScope.branch "Restrictions" []
        [operationScope.branch "RestrictionList" [] (leaves operationScope restrictions)]]

/-- The element of the operation that a request calls. -/
def operationTree (request : Request) (properties : Properties) : Element :=
  operationScope.branch request.operation.requestName [("xmlns", xmlaNs)]
    (request.questionTrees ++ [propertiesTree (properties.fields ++ request.ownProperties)])

/-- The body of the envelope of a request. -/
def bodyTree (request : Request) (properties : Properties) : Element :=
  envelopeScope.branch "SOAP-ENV:Body" [] [request.operationTree properties]

/-- The envelope that a request is. -/
def tree (request : Request) (properties : Properties) : Element :=
  envelopeScope.branch "SOAP-ENV:Envelope" envelopeAttributes [request.bodyTree properties]

end Request

/-! ### The document is the element -/

theorem propertyList_eq (properties : Properties) (more : List (String × String)) :
  propertyList properties more = (propertiesTree (properties.fields ++ more)).plain
  := by
  have fields : properties.fields.flatMap (fun item => textElement item.1 item.2)
      = propertyText "DataSourceInfo" properties.dataSourceInfo
        ++ propertyText "Catalog" properties.catalog ++ propertyText "Roles" properties.roles := by
    obtain ⟨catalog, dataSourceInfo, roles⟩ := properties
    cases catalog <;> cases dataSourceInfo <;> cases roles <;>
      simp [Properties.fields, propertyText]
  simp only [propertiesTree, plain_bare, List.flatMap_singleton, plain_leaves, List.flatMap_append,
    fields]
  simp [propertyList]

theorem Request.question_eq (request : Request) :
  request.question = request.questionTrees.flatMap Element.plain
  := by
  cases request with
  | execute statement format => simp [question, questionTrees, plain_bare, plain_leaf]
  | discover requestType restrictions =>
    simp [question, questionTrees, plain_bare, plain_leaf, plain_leaves]

theorem operationTag_eq (operation : Operation) :
  operationTag operation = openingText operation.requestName [("xmlns", xmlaNs)]
  := by
  rw [operationTag, operationMark, openingText, List.flatMap_singleton]

theorem envelopeText_eq (operation : Operation) (content : List Char) :
  envelopeText operation content
    = prolog ++ (openingText "SOAP-ENV:Envelope" envelopeAttributes
      ++ enclose "SOAP-ENV:Body" (operationTag operation ++ content
        ++ endTag operation.requestName)
      ++ endTag "SOAP-ENV:Envelope")
  := by
  unfold envelopeText prolog openingText envelopeAttributes
  -- The characters of these two texts do not matter, and spelling them out is slow.
  generalize "<?xml version=\"1.0\" encoding=\"UTF-8\"?>".toList = first
  generalize "SOAP-ENV:Envelope".toList = name
  simp

/-- A request is written as the document of its element. -/
theorem Request.text_eq (request : Request) (properties : Properties) :
  request.text properties = documentText (request.tree properties)
  := by
  rw [text, question_eq, propertyList_eq, envelopeText_eq, operationTag_eq, documentText, tree,
    plain_branch, List.flatMap_singleton, bodyTree, plain_bare, List.flatMap_singleton,
    operationTree, plain_branch, List.flatMap_append, List.flatMap_singleton]

/-! ### The element fits -/

/-- The names of the properties that a request sends. -/
theorem Request.isNCName_properties (request : Request) (properties : Properties) :
  ∀ item ∈ properties.fields ++ request.ownProperties, isNCName item.1.toList
  := by
  intro item hitem
  rcases List.mem_append.mp hitem with session | own
  · simp only [Properties.fields, List.mem_filterMap, List.mem_cons, List.not_mem_nil,
      or_false] at session
    obtain ⟨field, hfield, hvalue⟩ := session
    obtain ⟨value, -, rfl⟩ := Option.map_eq_some_iff.mp hvalue
    rcases hfield with rfl | rfl | rfl <;> dsimp only <;> decide
  · clear hitem
    revert item
    rcases request with ⟨_, _ | _⟩ | _ <;> simp only [ownProperties] <;> decide

theorem fits_propertiesTree
    {items : List (String × String)} (h : ∀ item ∈ items, isNameToken item.1.toList) :
  (propertiesTree items).Fits operationScope
  := by
  apply (Scope.allows_bare operationScope (by decide)).fits_branch
  simp only [List.mem_singleton, forall_eq]
  apply (Scope.allows_bare operationScope (by decide)).fits_branch
  apply fits_leaves h

/-- The names of the elements that a request takes from its caller are names. -/
def Request.Named : Request → Prop
  | .execute _ _ => True
  | .discover _ restrictions => ∀ item ∈ restrictions, isNCName item.1.toList

theorem Request.fits_questionTrees {request : Request} (named : request.Named) :
  ∀ e ∈ request.questionTrees, e.Fits operationScope
  := by
  cases request with
  | execute statement format =>
    simp only [questionTrees, List.mem_singleton, forall_eq]
    apply (Scope.allows_bare operationScope (by decide)).fits_branch
    simp only [List.mem_singleton, forall_eq]
    apply Scope.fits_leaf operationScope (by decide)
  | discover requestType restrictions =>
    simp only [questionTrees, List.mem_cons, List.not_mem_nil, or_false, forall_eq_or_imp,
      forall_eq]
    constructor
    · apply Scope.fits_leaf operationScope (by decide)
    · apply (Scope.allows_bare operationScope (by decide)).fits_branch
      simp only [List.mem_singleton, forall_eq]
      apply (Scope.allows_bare operationScope (by decide)).fits_branch
      apply fits_leaves fun item hitem => isNameToken_of_isNCName (named item hitem)

theorem allows_envelope :
  Scope.initial.Allows envelopeScope "SOAP-ENV:Envelope" envelopeAttributes
  := by
  constructor <;> decide

theorem allows_operation (operation : Operation) :
  envelopeScope.Allows operationScope operation.requestName [("xmlns", xmlaNs)]
  := by
  cases operation <;> constructor <;> decide

theorem Request.fits_tree {request : Request} (named : request.Named) (properties : Properties) :
  (request.tree properties).Fits .initial
  := by
  apply allows_envelope.fits_branch
  simp only [List.mem_singleton, forall_eq]
  apply (Scope.allows_bare envelopeScope (by decide)).fits_branch
  simp only [List.mem_singleton, forall_eq]
  apply (allows_operation request.operation).fits_branch
  intro e he
  rcases List.mem_append.mp he with question | settings
  · apply fits_questionTrees named e question
  · rw [List.mem_singleton.mp settings]
    apply fits_propertiesTree
    intro item hitem
    apply isNameToken_of_isNCName (request.isNCName_properties properties item hitem)

/-- The document of a request is read as its element. -/
theorem Request.readDocument_text
    {request : Request} (named : request.Named) (properties : Properties) :
  readDocument (encode (request.text properties)) = .ok (request.tree properties)
  := by
  rw [text_eq]
  apply readDocument_documentText
  apply fits_tree named

end OlapClient.Protocol
