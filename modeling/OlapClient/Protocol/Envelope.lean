import OlapClient.Markup.Document
import OlapClient.Markup.Layout
import OlapClient.Protocol.Vocabulary

/-!
# Envelopes of responses

A response is an envelope with a body, and the body holds the result of an operation in a
`return` element or a fault.  A fault wins over anything that stands beside it.
-/

namespace OlapClient.Protocol

open OlapClient.Markup
open OlapClient.Text

/-- The first child with a local name, whatever its namespace. -/
def childNamed? (e : Element) (localName : String) : Option Element :=
  e.children.find? (·.tag.localName == localName)

/-- The fault that a fault element describes.  Its children are found by local name. -/
def faultOf (e : Element) : Except Failure Fault := do
  let detail ← (childNamed? e "detail").mapM Element.print
  let pretty ← e.print
  return {
    code := (childNamed? e "faultcode").map fun c => trimmed c.text
    reason := (childNamed? e "faultstring").map fun c => trimmed c.text
    actor := (childNamed? e "faultactor").map fun c => trimmed c.text
    detail := detail
    pretty := pretty
  }

/-- An element, or the failure of a response that lacks it. -/
def orMalformed (e : Option Element) (defect : Defect) : Except Failure Element :=
  match e with
  | some e => .ok e
  | none => .error (.malformed defect)

/-- The `return` element of an envelope that answers an operation. -/
def readEnvelope (envelope : Element) (operation : Operation) : Except Failure Element :=
  if envelope.is soapNs "Envelope" then do
    let body ← orMalformed (envelope.findChild? soapNs "Body") .noBody
    match body.findChild? soapNs "Fault" with
    | some fault =>
      let fault ← faultOf fault
      .error (.serverFault fault)
    | none =>
      let name := operation.responseName
      let response ← orMalformed (body.findChild? xmlaNs name) (.noResponse name)
      orMalformed (response.findChild? xmlaNs "return") (.noReturn name)
  else .error (.malformed (.notEnvelope envelope.qname))

/-- The `return` element of a response to an operation. -/
def readResponse (bytes : Octets) (operation : Operation) : Except Failure Element := do
  let envelope ← readDocument bytes
  readEnvelope envelope operation

end OlapClient.Protocol
