import OlapClient.Failure
import OlapClient.Markup.Namespace

/-!
# Documents

A document is read in three steps, each on the result of the one before: octets become
tokens, tokens become events, in which names are resolved and end tags match start tags, and
events become a tree.  `readEvents` is the second step, `buildTree` the third and `readDocument`
all of them.  Neighbouring texts, character data sections and references make one text of the
tree, and what stands outside the root element leaves no trace in it.  Of several defects the
first one in the document is reported.
-/

namespace OlapClient.Markup

open OlapClient.Text

/-- An event of a document; stretches without content are passed over. -/
inductive Event where
  | start (tag : Tag)
  | empty (tag : Tag)
  | stop
  | text (s : String)
  | reference (name : List Char)
  | passed
  deriving DecidableEq, Repr

/-! ### From tokens to events -/

/-- An element that is open: its name as written and the scope within it. -/
structure OpenElement where
  name : List Char
  scope : Scope
  deriving DecidableEq, Repr

/-- The scope within the innermost of the open elements. -/
def scopeWithin : List OpenElement → Scope
  | [] => .initial
  | e :: _ => e.scope

/-- The event of a token and the elements open after it, innermost first.  An end tag has to
name the innermost open element. -/
def readEvent (opened : List OpenElement) : Token → Option (Event × List OpenElement)
  | .startTag tag =>
    (resolveTag (scopeWithin opened) tag).map fun (resolved, scope) =>
      (.start resolved, ⟨tag.name, scope⟩ :: opened)
  | .emptyTag tag =>
    (resolveTag (scopeWithin opened) tag).map fun (resolved, _) => (.empty resolved, opened)
  | .endTag name =>
    match opened with
    | e :: outer => if e.name = name then some (.stop, outer) else none
    | [] => none
  | .text cs => some (.text (String.ofList cs), opened)
  | .characterData cs => some (.text (String.ofList cs), opened)
  | .reference name => some (.reference name, opened)
  | .skipped => some (.passed, opened)

/-- The events of tokens in order.  A token that fits no event ends them with `none`, as does
a place that is no token. -/
def readEvents (opened : List OpenElement) : List (Option Token) → List (Option Event)
  | [] => []
  | none :: _ => [none]
  | some token :: rest =>
    match readEvent opened token with
    | none => [none]
    | some (event, opened) => some event :: readEvents opened rest

/-! ### From events to a tree -/

/-- An element whose end is still to come: its tag and its children so far, latest first. -/
structure Frame where
  tag : Tag
  nodes : List Node
  deriving DecidableEq, Repr

/-- A tree under construction: the open elements, innermost first, and the finished root. -/
structure Builder where
  opened : List Frame
  root : Option Element
  deriving DecidableEq, Repr

/-- Adds a text to children, latest first; a text joins a text before it. -/
def pushText (s : String) : List Node → List Node
  | .text t :: rest => .text (t ++ s) :: rest
  | nodes => .text s :: nodes

namespace Builder

/-- Nothing read yet. -/
def initial : Builder :=
  ⟨[], none⟩

/-- Adds a text to the innermost open element; outside the root it is dropped. -/
def addText (b : Builder) (s : String) : Builder :=
  match b.opened with
  | [] => b
  | frame :: outer => ⟨⟨frame.tag, pushText s frame.nodes⟩ :: outer, b.root⟩

/-- Adds a finished element to the innermost open element, or makes it the root. -/
def addElement (b : Builder) (e : Element) : Except Defect Builder :=
  match b.opened with
  | frame :: outer => .ok ⟨⟨frame.tag, .element e :: frame.nodes⟩ :: outer, b.root⟩
  | [] =>
    match b.root with
    | none => .ok ⟨[], some e⟩
    | some _ => .error .secondRoot

/-- The element of a frame whose end has come. -/
def finish (frame : Frame) : Element :=
  ⟨frame.tag, .ofNodes frame.nodes.reverse⟩

/-- The defect of a reference that is not resolved. -/
def referenceDefect (name : List Char) : ReferenceFault → Defect
  | .unknownName => .unknownEntity (String.ofList name)
  | .notACodePoint fault => .numeral fault
  | .notACharacter => .invalidCharacterReference (String.ofList name)

/-- The tree after an event. -/
def step (b : Builder) : Event → Except Defect Builder
  | .start tag => .ok ⟨⟨tag, []⟩ :: b.opened, b.root⟩
  | .empty tag => b.addElement ⟨tag, .nil⟩
  | .stop =>
    match b.opened with
    | [] => .error .unbalancedEndTag
    | frame :: outer => addElement ⟨outer, b.root⟩ (finish frame)
  | .text s => .ok (b.addText s)
  | .reference name =>
    match characterOf name with
    | .ok c => .ok (b.addText (String.singleton c))
    | .error fault => .error (referenceDefect name fault)
  | .passed => .ok b

/-- The tree after events. -/
def run (b : Builder) : List (Option Event) → Except Defect Builder
  | [] => .ok b
  | none :: _ => .error .notWellFormed
  | some event :: rest =>
    match b.step event with
    | .ok b => b.run rest
    | .error defect => .error defect

/-- The root of a finished tree. -/
def result (b : Builder) : Except Defect Element :=
  if b.opened.isEmpty then
    match b.root with
    | some root => .ok root
    | none => .error .noRoot
  else .error .unexpectedEnd

end Builder

/-- The root element of the tree that events describe. -/
def buildTree (events : List (Option Event)) : Except Defect Element := do
  let b ← Builder.initial.run events
  b.result

/-! ### From octets to a tree -/

/-- Symbols without the byte order mark they may begin with. -/
def dropMark : List Symbol → List Symbol
  | some '\uFEFF' :: rest => rest
  | symbols => symbols

/-- The events of a document. -/
def documentEvents (bytes : Octets) : List (Option Event) :=
  readEvents [] (tokens (dropMark (decode bytes)))

/-- The root element of a document. -/
def readDocument (bytes : Octets) : Except Failure Element :=
  (buildTree (documentEvents bytes)).mapError .malformed

end OlapClient.Markup
