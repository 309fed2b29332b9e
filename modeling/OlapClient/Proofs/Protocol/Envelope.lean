import Mathlib.Tactic.Common
import OlapClient.Proofs.Markup.Trimmed
import OlapClient.Protocol.Envelope

/-!
# The verdict on a response

A response is a fault, a payload or malformed.  `readResponse_verdict` tells the three apart by
what stands in the document: a fault anywhere in the first body wins, without one the first
`return` element of the first response element is the payload, and every other document is
malformed.  A first child is found by its place among all children, texts and elements of other
names included.
-/

namespace OlapClient.Protocol

open OlapClient.Markup
open OlapClient.Text

/-! ### First children -/

/-- The child is an element of a namespace and local name, and no element before it is. -/
def IsFirstChild (ns localName : String) (parent child : Element) : Prop :=
  ∃ before after, parent.content.nodes = before ++ .element child :: after
    ∧ child.is ns localName ∧ ∀ e, .element e ∈ before → e.is ns localName = false

/-- The element that a child is, if it is one. -/
def elementOf? : Node → Option Element
  | .text _ => none
  | .element e => some e

theorem elementOf?_eq_some {n : Node} {e : Element} :
  elementOf? n = some e ↔ n = .element e
  := by
  cases n <;> simp [elementOf?]

theorem children_eq_filterMap (c : Content) :
  c.children = c.nodes.filterMap elementOf?
  := by
  induction c with
  | nil => rfl
  | text s rest ih =>
    rw [Content.children, ih]
    rfl
  | element tag inner rest _ ih =>
    rw [Content.children, ih]
    rfl

theorem findChild?_eq_some_iff {ns localName : String} {parent child : Element} :
  parent.findChild? ns localName = some child ↔ IsFirstChild ns localName parent child
  := by
  rw [Element.findChild?, Element.children, children_eq_filterMap, List.find?_filterMap,
    Option.bind_eq_some_iff]
  constructor
  · rintro ⟨n, found, is_child⟩
    obtain rfl := elementOf?_eq_some.mp is_child
    obtain ⟨named, before, after, split, none⟩ := List.find?_eq_some_iff_append.mp found
    use before, after, split, by simpa [elementOf?] using named
    intro e he
    simpa [elementOf?] using none _ he
  · rintro ⟨before, after, split, named, none⟩
    use .element child
    constructor
    · apply List.find?_eq_some_iff_append.mpr
      constructor
      · simpa [elementOf?] using named
      · use before, after, split
        intro n hn
        cases n with
        | text s => rfl
        | element e => simp [elementOf?, none e hn]
    · rfl

theorem findChild?_eq_none_iff {ns localName : String} {parent : Element} :
  parent.findChild? ns localName = none
    ↔ ∀ e, .element e ∈ parent.content.nodes → e.is ns localName = false
  := by
  rw [Element.findChild?, Element.children, children_eq_filterMap, List.find?_eq_none]
  simp [elementOf?_eq_some]

/-! ### What a response holds -/

/-- The octets are a document, its root is an envelope, and this is the first body in it. -/
def HasBody (bytes : Octets) (body : Element) : Prop :=
  ∃ root, readDocument bytes = .ok root ∧ root.is soapNs "Envelope"
    ∧ IsFirstChild soapNs "Body" root body

/-- A fault stands somewhere among the children of a body. -/
def HasFault (body : Element) : Prop :=
  ∃ fault, .element fault ∈ body.content.nodes ∧ fault.is soapNs "Fault"

/-- The payload is the first `return` element of the first response to an operation. -/
def Returns (operation : Operation) (body payload : Element) : Prop :=
  ∃ response, IsFirstChild xmlaNs operation.responseName body response
    ∧ IsFirstChild xmlaNs "return" response payload

theorem IsFirstChild.unique
    {ns localName : String} {parent child child' : Element}
    (h : IsFirstChild ns localName parent child) (h' : IsFirstChild ns localName parent child') :
  child = child'
  := by
  rw [← findChild?_eq_some_iff] at h h'
  apply Option.some.inj (h.symm.trans h')

theorem HasBody.unique
    {bytes : Octets} {body body' : Element} (h : HasBody bytes body) (h' : HasBody bytes body') :
  body = body'
  := by
  obtain ⟨root, read, -, first⟩ := h
  obtain ⟨root', read', -, first'⟩ := h'
  obtain rfl : root = root' := Except.ok.inj (read.symm.trans read')
  apply first.unique first'

theorem Returns.unique
    {operation : Operation} {body payload payload' : Element} (h : Returns operation body payload)
    (h' : Returns operation body payload') :
  payload = payload'
  := by
  obtain ⟨response, answers, returns⟩ := h
  obtain ⟨response', answers', returns'⟩ := h'
  obtain rfl := answers.unique answers'
  apply returns.unique returns'

theorem hasFault_iff (body : Element) :
  HasFault body ↔ ∃ fault, IsFirstChild soapNs "Fault" body fault
  := by
  constructor
  · rintro ⟨fault, among, is_fault⟩
    cases found : body.findChild? soapNs "Fault" with
    | some first => exact ⟨first, findChild?_eq_some_iff.mp found⟩
    | none =>
      have none := findChild?_eq_none_iff.mp found fault among
      rw [is_fault] at none
      cases none
  · rintro ⟨fault, before, after, split, is_fault, -⟩
    use fault
    simp [split, is_fault]

/-! ### Verdicts -/

/-- Every fault element describes a fault: what it is written as is always a text. -/
theorem faultOf_eq_ok (e : Element) :
  ∃ fault, faultOf e = .ok fault
  := by
  cases detail : childNamed? e "detail" with
  | none =>
    simp only [faultOf, detail, Element.print_eq]
    exact ⟨_, rfl⟩
  | some d =>
    simp only [faultOf, detail, Element.print_eq, Option.mapM_some]
    exact ⟨_, rfl⟩

/-- Without an envelope that has a body, a response is malformed. -/
theorem readResponse_of_not_hasBody
    {bytes : Octets} (no_body : ∀ body, ¬ HasBody bytes body) (operation : Operation) :
  ∃ defect, readResponse bytes operation = .error (.malformed defect)
  := by
  rw [readResponse]
  cases read : readDocument bytes with
  | error failure =>
    rw [readDocument] at read
    cases built : buildTree (documentEvents bytes) with
    | ok root => simp [built, Except.mapError] at read
    | error defect =>
      rw [built] at read
      cases read
      use defect
      rfl
  | ok root =>
    simp only [bind, Except.bind]
    by_cases envelope : root.is soapNs "Envelope"
    · cases found : root.findChild? soapNs "Body" with
      | none =>
        use .noBody
        rw [readEnvelope, if_pos envelope, found]
        rfl
      | some body =>
        apply absurd _ (no_body body)
        exact ⟨root, read, envelope, findChild?_eq_some_iff.mp found⟩
    · use .notEnvelope root.qname
      rw [readEnvelope, if_neg envelope]

/-- The first fault of the body is the answer, and it is described in full. -/
theorem readResponse_of_fault
    {bytes : Octets} {body fault : Element} (held : HasBody bytes body)
    (first : IsFirstChild soapNs "Fault" body fault) (operation : Operation) :
  ∃ f, faultOf fault = .ok f ∧ readResponse bytes operation = .error (.serverFault f)
  := by
  obtain ⟨root, read, envelope, first_body⟩ := held
  obtain ⟨f, described⟩ := faultOf_eq_ok fault
  use f, described
  rw [readResponse, read]
  simp only [bind, Except.bind]
  rw [readEnvelope, if_pos envelope, findChild?_eq_some_iff.mpr first_body]
  simp only [orMalformed, bind, Except.bind, findChild?_eq_some_iff.mpr first, described]

/-- Without a fault, the payload is what the response returns. -/
theorem readResponse_of_not_hasFault
    {bytes : Octets} {body : Element} (held : HasBody bytes body) (no_fault : ¬ HasFault body)
    (operation : Operation) :
  (∃ payload, Returns operation body payload ∧ readResponse bytes operation = .ok payload)
    ∨ (∀ payload, ¬ Returns operation body payload)
      ∧ ∃ defect, readResponse bytes operation = .error (.malformed defect)
  := by
  obtain ⟨root, read, envelope, first_body⟩ := held
  have none : body.findChild? soapNs "Fault" = none := by
    rw [hasFault_iff] at no_fault
    cases found : body.findChild? soapNs "Fault" with
    | none => rfl
    | some fault => exact absurd ⟨fault, findChild?_eq_some_iff.mp found⟩ no_fault
  have reads : readResponse bytes operation
      = (orMalformed (body.findChild? xmlaNs operation.responseName)
          (.noResponse operation.responseName)).bind fun response =>
        orMalformed (response.findChild? xmlaNs "return") (.noReturn operation.responseName) := by
    rw [readResponse, read]
    simp only [bind, Except.bind]
    rw [readEnvelope, if_pos envelope, findChild?_eq_some_iff.mpr first_body]
    simp only [orMalformed, bind, Except.bind, none]
  rw [reads]
  cases answer : body.findChild? xmlaNs operation.responseName with
  | none =>
    right
    constructor
    · rintro payload ⟨response, answers, -⟩
      rw [← findChild?_eq_some_iff, answer] at answers
      cases answers
    · exact ⟨_, rfl⟩
  | some response =>
    cases result : response.findChild? xmlaNs "return" with
    | none =>
      right
      constructor
      · rintro payload ⟨response', answers, returns⟩
        rw [← findChild?_eq_some_iff, answer] at answers
        cases answers
        rw [← findChild?_eq_some_iff, result] at returns
        cases returns
      · exact ⟨.noReturn operation.responseName, by simp [orMalformed, Except.bind, result]⟩
    | some payload =>
      left
      use payload
      constructor
      · exact ⟨response, findChild?_eq_some_iff.mp answer, findChild?_eq_some_iff.mp result⟩
      · simp [orMalformed, Except.bind, result]

/-- A response is a fault exactly when its first body holds one, wherever it stands and whatever
stands beside it; it is a payload exactly when there is no fault and the first response to the
operation returns that payload first; in every other case it is malformed, and no other failure
is ever the result. -/
theorem readResponse_verdict (bytes : Octets) (operation : Operation) :
  ((∃ fault, readResponse bytes operation = .error (.serverFault fault))
      ↔ ∃ body, HasBody bytes body ∧ HasFault body)
    ∧ (∀ payload, readResponse bytes operation = .ok payload
      ↔ ∃ body, HasBody bytes body ∧ ¬ HasFault body ∧ Returns operation body payload)
    ∧ ((∃ defect, readResponse bytes operation = .error (.malformed defect))
      ↔ ¬ ∃ body, HasBody bytes body ∧ (HasFault body ∨ ∃ payload, Returns operation body payload))
    ∧ ∀ failure, readResponse bytes operation = .error failure →
      (∃ fault, failure = .serverFault fault) ∨ ∃ defect, failure = .malformed defect
  := by
  by_cases some_body : ∃ body, HasBody bytes body
  · obtain ⟨body, held⟩ := some_body
    -- the body is the only one, so what a statement says of some body it says of this one
    have only (P : Element → Prop) : (∃ body', HasBody bytes body' ∧ P body') ↔ P body := by
      constructor
      · rintro ⟨body', held', h⟩
        rw [held.unique held']
        apply h
      · intro h
        exact ⟨body, held, h⟩
    simp only [only]
    by_cases fault : HasFault body
    · obtain ⟨element, first⟩ := (hasFault_iff body).mp fault
      obtain ⟨f, -, read⟩ := readResponse_of_fault held first operation
      simp [read, fault]
    · rcases readResponse_of_not_hasFault held fault operation with
        ⟨payload, returns, read⟩ | ⟨nothing, defect, read⟩
      · have unique (payload' : Element) :
            payload = payload' ↔ Returns operation body payload' := by
          constructor
          · rintro rfl
            apply returns
          · apply returns.unique
        have some_payload : ∃ payload, Returns operation body payload := ⟨payload, returns⟩
        simp [read, fault, unique, some_payload]
      · simp [read, fault, nothing]
  · obtain ⟨defect, read⟩ := readResponse_of_not_hasBody (not_exists.mp some_body) operation
    have none (P : Element → Prop) : ¬ ∃ body, HasBody bytes body ∧ P body :=
      fun ⟨body, held, _⟩ => some_body ⟨body, held⟩
    simp [read, none]

end OlapClient.Protocol
