import OlapClient.Markup.Element
import OlapClient.Value.Coercion

/-!
# Fields of an element

A field is the first child of an element with a given namespace and local name.  Its text is
read by a schema type, and a field that is absent is the value `null`.
-/

namespace OlapClient

open OlapClient.Markup
open OlapClient.Schema

/-- The value of the field `name` of an element, read as `type`. -/
def readField (e : Element) (ns name : String) (type : SchemaType) : Except Failure Value :=
  match e.childText? ns name with
  | some text => coerce text name type
  | none => .ok .null

end OlapClient
