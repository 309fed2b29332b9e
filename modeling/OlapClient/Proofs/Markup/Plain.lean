import Mathlib.Tactic.Common
import OlapClient.Markup.Layout
import OlapClient.Proofs.Markup.Reading
import OlapClient.Proofs.Text.Coding

/-!
# Elements written without layout

`Content.plain` writes content with nothing between its tags: each element as a start tag, its
content and an end tag, and each text escaped.  Content `Fits` a scope when its tags have the
namespaces that the scope gives to their names and no two of its texts touch.  Reading what was
written of an element that fits gives the element back.
-/

namespace OlapClient.Markup

open OlapClient.Text

/-! ### Tags and scopes -/

namespace Tag

/-- A tag as it is written, its attribute values escaped. -/
def source (t : Tag) : WrittenTag where
  name := t.qname.toList
  attributes := t.attributes.map fun a => (a.qname.toList, escape isMarkupOrQuote a.value.toList)

theorem chars_source (t : Tag) :
  t.source.chars = t.written
  := by
  rw [WrittenTag.chars, written, source, List.flatMap_map]
  rfl

/-- A tag has readable names, declares the bindings between two scopes, and its names have the
namespaces that the inner scope gives to them. -/
structure Fits (around : Scope) (t : Tag) (within : Scope) : Prop where
  name : isNameToken t.qname.toList
  keys : ∀ a ∈ t.attributes, isNameToken a.qname.toList
  distinct : (t.attributes.map (·.qname)).Nodup
  declares : around.declare t.source.attributes = some within
  ns : t.ns = within.ofElementName t.qname.toList
  localName : t.localName = String.ofList (splitName t.qname.toList).2
  attributes : ∀ a ∈ t.attributes, a.ns = within.ofAttributeName a.qname.toList
    ∧ a.localName = String.ofList (splitName a.qname.toList).2

variable {around within : Scope} {t : Tag}

theorem Fits.regular (h : t.Fits around within) :
  t.source.Regular
  := by
  constructor
  · apply h.name
  · intro item hitem
    obtain ⟨a, ha, rfl⟩ := List.mem_map.mp hitem
    apply h.keys a ha
  · have keys : t.source.attributes.map (·.1) = (t.attributes.map (·.qname)).map String.toList := by
      simp [source]
    rw [keys]
    apply List.Pairwise.map String.toList _ h.distinct
    intro s s' differ same
    apply differ
    apply String.toList_inj.mp same
  · intro item hitem
    obtain ⟨a, -, rfl⟩ := List.mem_map.mp hitem
    apply not_mem_escape (fun c hc => hc) (by decide) (by decide)

/-- An attribute's written form with its value escaped. -/
theorem resolveAttribute_escape
    {scope : Scope} {a : Attribute} (ns : a.ns = scope.ofAttributeName a.qname.toList)
    (localName : a.localName = String.ofList (splitName a.qname.toList).2) :
  resolveAttribute scope (a.qname.toList, escape isMarkupOrQuote a.value.toList) = some a
  := by
  rw [resolveAttribute, unescape_escape]
  simp [← ns, ← localName]

theorem mapM_resolveAttribute
    {scope : Scope} {attributes : List Attribute}
    (named : ∀ a ∈ attributes, a.ns = scope.ofAttributeName a.qname.toList
      ∧ a.localName = String.ofList (splitName a.qname.toList).2) :
  (attributes.map fun a => (a.qname.toList, escape isMarkupOrQuote a.value.toList)).mapM
      (resolveAttribute scope)
    = some attributes
  := by
  induction attributes with
  | nil => rfl
  | cons a attributes ih =>
    have first := named a (by simp)
    rw [List.map_cons, List.mapM_cons, resolveAttribute_escape first.1 first.2,
      ih fun a' ha' => named a' (by simp [ha'])]
    rfl

/-- A tag that fits is what its written form is resolved to. -/
theorem Fits.resolves (h : t.Fits around within) :
  resolveTag around t.source = some (t, within)
  := by
  have attributes : t.source.attributes.mapM (resolveAttribute within) = some t.attributes :=
    mapM_resolveAttribute h.attributes
  rw [resolveTag, h.declares]
  simp only [Option.bind_eq_bind, Option.bind_some, attributes, Option.pure_def]
  simp only [source, String.ofList_toList, ← h.ns, ← h.localName]

end Tag

/-! ### Content written plainly -/

namespace Content

/-- Content with nothing between its tags. -/
def plain : Content → List Char
  | nil => []
  | text s rest => escape isMarkupOrQuote s.toList ++ rest.plain
  | element tag inner rest =>
    '<' :: (tag.written ++ '>' :: (inner.plain
      ++ '<' :: '/' :: (tag.qname.toList ++ '>' :: rest.plain)))

/-- The first child is a text. -/
def beginsWithText : Content → Bool
  | text _ _ => true
  | _ => false

/-- The tags fit the scopes around them, no text is empty and no two texts touch. -/
def Fits : Content → Scope → Prop
  | nil, _ => True
  | text s rest, scope => s ≠ "" ∧ rest.beginsWithText = false ∧ rest.Fits scope
  | element tag inner rest, scope =>
    (∃ within, tag.Fits scope within ∧ inner.Fits within) ∧ rest.Fits scope

end Content

namespace Builder

/-- An escaped text is a child of its own where no text stands before it. -/
theorem read_newText
    {special : Char → Bool} (class_ : Escapes special) {cs : List Char} (some_char : cs ≠ [])
    (opened : List OpenElement) (frame : Frame) (outer : List Frame) (root : Option Element)
    (apart : ∀ s nodes, frame.nodes ≠ .text s :: nodes) (rest : List Symbol) :
  (⟨frame :: outer, root⟩ : Builder).read opened ((escape special cs).map some ++ rest)
    = (⟨⟨frame.tag, .text (String.ofList cs) :: frame.nodes⟩ :: outer, root⟩ : Builder).read
      opened rest
  := by
  have pushed (s : String) : pushText s frame.nodes = .text s :: frame.nodes := by
    unfold pushText
    split
    · rename_i t nodes h
      apply absurd h (apart t nodes)
    · rfl
  rw [read_escape class_, addChars_eq_addText _ some_char]
  simp only [addText, pushed]

/-- A start tag, content that is read as `inner`, and an end tag add an element. -/
theorem read_enclosed
    {b b' : Builder} {opened : List OpenElement} {tag : Tag} {within : Scope}
    (fits : tag.Fits (scopeWithin opened) within) (inner : Content)
    (added : b.addElement ⟨tag, inner⟩ = .ok b') (content : List Char)
    (reads : ∀ rest,
      (⟨⟨tag, []⟩ :: b.opened, b.root⟩ : Builder).read (⟨tag.qname.toList, within⟩ :: opened)
          (content.map some ++ rest)
        = (⟨⟨tag, inner.nodes.reverse⟩ :: b.opened, b.root⟩ : Builder).read
          (⟨tag.qname.toList, within⟩ :: opened) rest)
    (rest : List Symbol) :
  b.read opened
      (('<' :: (tag.written ++ '>' :: (content ++ '<' :: '/' :: (tag.qname.toList ++ ['>'])))).map
        some ++ rest)
    = b'.read opened rest
  := by
  have finished : b.addElement (finish ⟨tag, inner.nodes.reverse⟩) = .ok b' := by
    simpa [finish] using added
  have start := read_startTag b opened fits.regular fits.resolves
    (content.map some
      ++ some '<' :: some '/' :: (tag.qname.toList.map some ++ some '>' :: rest))
  have name : tag.source.name = tag.qname.toList := rfl
  have stop := read_endTag ⟨tag, inner.nodes.reverse⟩ opened fits.name within finished rest
  rw [Tag.chars_source, name] at start
  rw [← stop, ← reads]
  simpa using start

/-- Content that fits adds its children to the innermost open element. -/
theorem read_plain
    (c : Content) {opened : List OpenElement} (fits : c.Fits (scopeWithin opened))
    (frame : Frame) (outer : List Frame) (root : Option Element)
    (apart : c.beginsWithText → ∀ s nodes, frame.nodes ≠ .text s :: nodes)
    (rest : List Symbol) :
  (⟨frame :: outer, root⟩ : Builder).read opened (c.plain.map some ++ rest)
    = (⟨⟨frame.tag, c.nodes.reverse ++ frame.nodes⟩ :: outer, root⟩ : Builder).read opened rest
  := by
  induction c generalizing opened frame outer rest with
  | nil => rfl
  | text s after ih =>
    obtain ⟨some_text, alone, fits⟩ := fits
    have chars : s.toList ≠ [] := by simpa using some_text
    rw [Content.plain, List.map_append, List.append_assoc,
      read_newText escapes_isMarkupOrQuote chars opened frame outer root (apart rfl),
      String.ofList_toList, ih fits _ _ (by simp [alone])]
    simp [Content.nodes]
  | element tag inner after inner_ih after_ih =>
    obtain ⟨⟨within, tag_fits, inner_fits⟩, after_fits⟩ := fits
    have fits_inside : inner.Fits (scopeWithin (⟨tag.qname.toList, within⟩ :: opened)) := inner_fits
    have whole := read_enclosed (b := ⟨frame :: outer, root⟩) tag_fits inner rfl inner.plain
      (fun rest => by
        have inside := inner_ih fits_inside ⟨tag, []⟩ (frame :: outer) (by simp) rest
        simpa using inside)
      (after.plain.map some ++ rest)
    have later := after_ih after_fits ⟨frame.tag, .element ⟨tag, inner⟩ :: frame.nodes⟩ outer
      (by simp) rest
    simp only [Content.nodes, List.reverse_cons, List.append_assoc, List.singleton_append]
    rw [← later, ← whole]
    simp [Content.plain]

end Builder

/-! ### Elements and documents -/

namespace Element

/-- An element with nothing between its tags. -/
def plain (e : Element) : List Char :=
  (Content.element e.tag e.content .nil).plain

/-- An element's tags fit the scopes around them, no text is empty and no two texts touch. -/
def Fits (e : Element) (scope : Scope) : Prop :=
  ∃ within, e.tag.Fits scope within ∧ e.content.Fits within

end Element

/-- What stands before the root element of a document. -/
def prolog : List Char :=
  "<?xml version=\"1.0\" encoding=\"UTF-8\"?>".toList

/-- A document that is an element, with its prolog. -/
def documentText (e : Element) : List Char :=
  prolog ++ e.plain

theorem Builder.read_prolog (b : Builder) (opened : List OpenElement) (rest : List Symbol) :
  b.read opened (prolog.map some ++ rest) = b.read opened rest
  := by
  apply read_instruction b opened "xml version=\"1.0\" encoding=\"UTF-8\"".toList
  · decide
  · decide

/-- A finished element outside all others is the root. -/
theorem Builder.read_root {e : Element} (fits : e.Fits .initial) :
  Builder.initial.read [] (e.plain.map some) = .ok ⟨[], some e⟩
  := by
  obtain ⟨within, tag_fits, content_fits⟩ := fits
  have fits_outside : e.tag.Fits (scopeWithin []) within := tag_fits
  have fits_inside : e.content.Fits (scopeWithin [⟨e.tag.qname.toList, within⟩]) := content_fits
  have whole := read_enclosed (b := .initial) fits_outside e.content rfl e.content.plain
    (fun rest => by
      have inside := read_plain e.content fits_inside ⟨e.tag, []⟩ [] none (by simp) rest
      simpa [initial] using inside)
    []
  rw [read_nil] at whole
  rw [← whole]
  simp [Element.plain, Content.plain]

/-- An element that fits the scope outside all elements is read from the document that it is. -/
theorem readDocument_documentText {e : Element} (fits : e.Fits .initial) :
  readDocument (encode (documentText e)) = .ok e
  := by
  apply Builder.readDocument_of_read rfl
  rw [documentText, List.map_append, Builder.read_prolog, Builder.read_root fits]

end OlapClient.Markup
