import OlapClient.Markup.Escape
import OlapClient.Protocol.Vocabulary
import OlapClient.Text.Utf8

/-!
# Requests

A request is an envelope around an `Execute` or a `Discover` element, written without any
space between its tags.  `Request` says what to ask, `Request.text` is the document that asks
it, and `Request.write` puts the octets of that document after those already written.
-/

namespace OlapClient.Protocol

open OlapClient.Markup
open OlapClient.Text

/-- The properties of a session, sent with each of its requests. -/
structure Properties where
  catalog : Option String
  dataSourceInfo : Option String
  roles : Option String
  deriving DecidableEq, Repr

/-- The properties of a session that sets none. -/
def Properties.none : Properties :=
  ⟨.none, .none, .none⟩

/-- What a request asks. -/
inductive Request where
  /-- Run a statement and answer in a format. -/
  | execute (statement : String) (format : Format)
  /-- List the metadata of a type that meet the restrictions. -/
  | discover (requestType : String) (restrictions : List (String × String))
  deriving DecidableEq, Repr

/-- The operation that carries a request. -/
def Request.operation : Request → Operation
  | .execute _ _ => .execute
  | .discover _ _ => .discover

/-! ### Markup of a request -/

/-- The start tag of an element without attributes. -/
def startTag (name : String) : List Char :=
  '<' :: name.toList ++ ['>']

/-- The end tag of an element. -/
def endTag (name : String) : List Char :=
  '<' :: '/' :: name.toList ++ ['>']

/-- An attribute, after the space that separates it from what is before it. -/
def attributeText (name value : String) : List Char :=
  ' ' :: name.toList ++ "=\"".toList ++ escape isMarkupOrQuote value.toList ++ ['"']

/-- An element around a content. -/
def enclose (name : String) (content : List Char) : List Char :=
  startTag name ++ content ++ endTag name

/-- An element around a text. -/
def textElement (name text : String) : List Char :=
  enclose name (escape isMarkupOrQuote text.toList)

/-- The tag that opens the element of an operation, without its end. -/
def operationMark (operation : Operation) : List Char :=
  '<' :: operation.requestName.toList ++ attributeText "xmlns" xmlaNs

/-- The tag that opens the element of an operation. -/
def operationTag (operation : Operation) : List Char :=
  operationMark operation ++ ['>']

/-- The document of an operation around a content. -/
def envelopeText (operation : Operation) (content : List Char) : List Char :=
  "<?xml version=\"1.0\" encoding=\"UTF-8\"?>".toList
    ++ '<' :: "SOAP-ENV:Envelope".toList ++ attributeText "xmlns:SOAP-ENV" soapNs
    ++ attributeText "SOAP-ENV:encodingStyle" soapEncoding ++ ['>']
    ++ enclose "SOAP-ENV:Body"
      (operationTag operation ++ content ++ endTag operation.requestName)
    ++ endTag "SOAP-ENV:Envelope"

/-- A property that is set, as an element. -/
def propertyText (name : String) : Option String → List Char
  | some value => textElement name value
  | none => []

/-- The properties of a session, then those of one request. -/
def propertyList (properties : Properties) (more : List (String × String)) : List Char :=
  enclose "Properties" (enclose "PropertyList"
    (propertyText "DataSourceInfo" properties.dataSourceInfo
      ++ propertyText "Catalog" properties.catalog
      ++ propertyText "Roles" properties.roles
      ++ more.flatMap fun (name, value) => textElement name value))

/-- The properties that a request adds to those of the session. -/
def Request.ownProperties : Request → List (String × String)
  | .execute _ .tabular => [("Format", Format.tabular.name)]
  | .execute _ .multidimensional =>
    [("Format", Format.multidimensional.name), ("AxisFormat", "TupleFormat")]
  | .discover _ _ => [("Format", Format.tabular.name), ("Content", "SchemaData")]

/-- What a request asks, as markup. -/
def Request.question : Request → List Char
  | .execute statement _ => enclose "Command" (textElement "Statement" statement)
  | .discover requestType restrictions =>
    textElement "RequestType" requestType
      ++ enclose "Restrictions" (enclose "RestrictionList"
        (restrictions.flatMap fun (name, value) => textElement name value))

/-- The document of a request. -/
def Request.text (request : Request) (properties : Properties) : List Char :=
  envelopeText request.operation
    (request.question ++ propertyList properties request.ownProperties)

/-- The octets already written, followed by those of a request. -/
def Request.write (request : Request) (properties : Properties) (written : Octets) : Octets :=
  written ++ encode (request.text properties)

end OlapClient.Protocol
