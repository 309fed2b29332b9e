import OlapClient.Markup.Element
import OlapClient.Markup.Escape
import OlapClient.Markup.Token

/-!
# Namespaces

A `Scope` lists the namespace bindings in force, innermost first; the binding of the empty
prefix is the default namespace.  `Scope.declare` adds the bindings that a tag declares and
refuses those that would give away the reserved prefixes or namespaces.  `resolveTag` gives a
written tag its namespaces and resolves the references in its attribute values.  The
namespace of a binding is the value as written, references and all.
-/

namespace OlapClient.Markup

/-- A namespace bound to a prefix. -/
structure Binding where
  label : List Char
  uri : List Char
  deriving DecidableEq, Repr

/-- The bindings in force, innermost first. -/
abbrev Scope : Type := List Binding

/-- The namespace of the prefix `xml`. -/
def xmlNs : String := "http://www.w3.org/XML/1998/namespace"

/-- The namespace of the prefix `xmlns`. -/
def xmlnsNs : String := "http://www.w3.org/2000/xmlns/"

/-- The bindings in force outside every element. -/
def Scope.initial : Scope :=
  [⟨"xml".toList, xmlNs.toList⟩, ⟨"xmlns".toList, xmlnsNs.toList⟩]

/-- The prefix of a name, if it has one, and its local part: what stands before and after the
first colon. -/
def splitName (name : List Char) : Option (List Char) × List Char :=
  match Text.cut (· == ':') name with
  | some (label, _, localName) => (some label, localName)
  | none => (none, name)

/-- What an attribute says about namespaces. -/
inductive Declaration where
  /-- The attribute is no declaration. -/
  | none
  | binds (b : Binding)
  /-- The attribute gives away a reserved prefix or namespace. -/
  | refused
  deriving DecidableEq, Repr

/-- A namespace that only its own prefix may have. -/
def isReserved (uri : List Char) : Bool :=
  uri == xmlNs.toList || uri == xmlnsNs.toList

/-- What an attribute, as written, says about namespaces. -/
def declaration (item : List Char × List Char) : Declaration :=
  let (key, uri) := item
  if key = "xmlns".toList then .binds ⟨[], uri⟩
  else if "xmlns:".toList.isPrefixOf key then
    let label := key.drop 6
    if label = "xml".toList then if uri = xmlNs.toList then .none else .refused
    else if label = "xmlns".toList then .refused
    else if isReserved uri then .refused
    else .binds ⟨label, uri⟩
  else .none

namespace Scope

/-- The bindings in force within a tag with these attributes. -/
def declare (scope : Scope) : List (List Char × List Char) → Option Scope
  | [] => some scope
  | item :: rest =>
    match declaration item with
    | .none => scope.declare rest
    | .binds b => Scope.declare (b :: scope) rest
    | .refused => Option.none

/-- The namespace bound to a prefix; an empty namespace unbinds. -/
def lookup (scope : Scope) (label : List Char) : Option String :=
  match scope.find? (·.label == label) with
  | some b => if b.uri.isEmpty then none else some (String.ofList b.uri)
  | none => none

/-- The namespace of a prefix that is written; the empty prefix has none. -/
def ofLabel (scope : Scope) (label : List Char) : Option String :=
  if label.isEmpty then none else scope.lookup label

/-- The namespace of an element's name. -/
def ofElementName (scope : Scope) (name : List Char) : Option String :=
  match (splitName name).1 with
  | some label => scope.ofLabel label
  | none => scope.lookup []

/-- The namespace of an attribute's name. -/
def ofAttributeName (scope : Scope) (name : List Char) : Option String :=
  (splitName name).1.bind scope.ofLabel

end Scope

/-- An attribute as written, with its namespace and its references resolved. -/
def resolveAttribute (scope : Scope) (item : List Char × List Char) : Option Attribute :=
  (unescape item.2).map fun value =>
    ⟨String.ofList item.1, scope.ofAttributeName item.1, String.ofList (splitName item.1).2,
      String.ofList value⟩

/-- A tag as written, resolved in the scope around it, and the scope within it. -/
def resolveTag (around : Scope) (tag : WrittenTag) : Option (Tag × Scope) := do
  let scope ← around.declare tag.attributes
  let attributes ← tag.attributes.mapM (resolveAttribute scope)
  return (⟨String.ofList tag.name, scope.ofElementName tag.name,
    String.ofList (splitName tag.name).2, attributes⟩, scope)

end OlapClient.Markup
