import Mathlib.Tactic.Common
import OlapClient.Proofs.Markup.Resolved

/-!
# Layouts read back

What `Element.pretty` writes of an element is read as the element with a text for each new line of
the layout.  These texts are blank and stand where no other text touches them, so up to blanks the
layout is read as the element it was written from, and it is laid out the same again.
-/

namespace OlapClient.Markup

open OlapClient.Text

/-! ### The text of a layout -/

/-- The content of an element at a depth laid out, with the line of the element's end tag. -/
def Content.laid (depth : Nat) (due : Bool) (c : Content) : List Char :=
  c.layoutBefore (depth + 1) due (lineStart (c.lineDue due) depth)

/-- An element at a depth laid out, without the line before it. -/
def Element.laid (depth : Nat) (e : Element) : List Char :=
  '<' :: (e.tag.written ++
    if e.content.isSignificant then
      '>' :: (e.content.laid depth true ++ '<' :: '/' :: (e.tag.qname.toList ++ ['>']))
    else ['/', '>'])

namespace Content

theorem layoutBefore_element
    (depth : Nat) (due : Bool) (tag : Tag) (inner rest : Content) (after : List Char) :
  (element tag inner rest).layoutBefore depth due after
    = lineStart due depth ++ (Element.laid depth ⟨tag, inner⟩ ++ rest.layoutBefore depth true after)
  := by
  rw [layoutBefore, Element.laid, laid, layoutBefore_eq (depth + 1), layoutBefore_eq (depth + 1)]
  split <;> simp

theorem laid_text (depth : Nat) (due : Bool) (s : String) (rest : Content) :
  (text s rest).laid depth due
    = escape isMarkup (trim s.toList) ++ rest.laid depth (due && (trim s.toList).isEmpty)
  := rfl

theorem laid_element (depth : Nat) (due : Bool) (tag : Tag) (inner rest : Content) :
  (element tag inner rest).laid depth due
    = lineStart due (depth + 1) ++ (Element.laid (depth + 1) ⟨tag, inner⟩ ++ rest.laid depth true)
  := layoutBefore_element (depth + 1) due tag inner rest _

end Content

theorem Element.pretty_eq (e : Element) :
  e.pretty = String.ofList (e.laid 0)
  := by
  rw [pretty, Content.layout, Content.layoutBefore_element]
  simp [lineStart, Content.layoutBefore]

/-! ### Reading a layout -/

namespace Builder

/-- A new line is a text of its own where no text stands before it. -/
theorem read_lineStart
    (due : Bool) (depth : Nat) (opened : List OpenElement) (frame : Frame) (outer : List Frame)
    (root : Option Element) (apart : due → ∀ s nodes, frame.nodes ≠ .text s :: nodes)
    (rest : List Symbol) :
  (⟨frame :: outer, root⟩ : Builder).read opened ((lineStart due depth).map some ++ rest)
    = (⟨⟨frame.tag, (Content.nil.afterLine due depth).nodes ++ frame.nodes⟩ :: outer, root⟩ :
      Builder).read opened rest
  := by
  cases due with
  | false => rfl
  | true =>
    have plain : escape isMarkup (lineStart true depth) = lineStart true depth := by
      apply escape_of_plain
      intro c hc
      rcases List.mem_cons.mp hc with rfl | hc
      · decide
      · rw [List.eq_of_mem_replicate hc]
        decide
    have line : lineStart true depth ≠ [] := by simp [lineStart]
    have read := read_newText escapes_isMarkup line opened frame outer root (apart rfl) rest
    rw [plain] at read
    rw [read]
    rfl

/-- An element laid out adds the element, with the texts that its content is read as. -/
theorem read_laid_element
    (b b' : Builder) {opened : List OpenElement} {tag : Tag} {within : Scope} (inner : Content)
    (depth : Nat) (fits : tag.Fits (scopeWithin opened) within)
    (added : b.addElement (Element.spaced depth ⟨tag, inner⟩) = .ok b')
    (reads : ∀ rest,
      (⟨⟨tag, []⟩ :: b.opened, b.root⟩ : Builder).read (⟨tag.qname.toList, within⟩ :: opened)
          ((inner.laid depth true).map some ++ rest)
        = (⟨⟨tag, (inner.spaced depth true).nodes.reverse⟩ :: b.opened, b.root⟩ : Builder).read
          (⟨tag.qname.toList, within⟩ :: opened) rest)
    (rest : List Symbol) :
  b.read opened ((Element.laid depth ⟨tag, inner⟩).map some ++ rest) = b'.read opened rest
  := by
  by_cases significant : inner.isSignificant
  · have spaced : Element.spaced depth ⟨tag, inner⟩ = ⟨tag, inner.spaced depth true⟩ := by
      simp [Element.spaced, significant]
    rw [spaced] at added
    have whole := read_enclosed fits _ added (inner.laid depth true) reads rest
    rw [← whole]
    simp [Element.laid, significant]
  · have spaced : Element.spaced depth ⟨tag, inner⟩ = ⟨tag, .nil⟩ := by
      simp [Element.spaced, significant]
    rw [spaced] at added
    have whole := read_emptyTag opened fits.regular fits.resolves added rest
    rw [Tag.chars_source] at whole
    rw [← whole]
    simp [Element.laid, significant]

/-- Content laid out adds its children and a text for each new line. -/
theorem read_laid
    (c : Content) {opened : List OpenElement} (fits : c.trimmed.Fits (scopeWithin opened))
    (depth : Nat) (due : Bool) (frame : Frame) (outer : List Frame) (root : Option Element)
    (apart : ∀ s nodes, frame.nodes = .text s :: nodes →
      due = false ∧ c.trimmed.beginsWithText = false)
    (rest : List Symbol) :
  (⟨frame :: outer, root⟩ : Builder).read opened ((c.laid depth due).map some ++ rest)
    = (⟨⟨frame.tag, (c.spaced depth due).nodes.reverse ++ frame.nodes⟩ :: outer, root⟩ :
      Builder).read opened rest
  := by
  induction c generalizing opened depth due frame outer rest with
  | nil =>
    have line := read_lineStart due depth opened frame outer root
      (by
        rintro rfl s nodes h
        cases (apart s nodes h).1) rest
    rw [Content.laid, Content.layoutBefore, Content.lineDue, line, Content.spaced]
    cases due <;> rfl
  | text s after ih =>
    by_cases blank : trim s.toList = []
    · rw [Content.trimmed_text_of_blank blank] at fits apart
      rw [Content.laid_text, Content.spaced_text_of_blank blank, blank]
      simpa using ih fits depth due frame outer apart rest
    · rw [Content.trimmed_text_of_not_blank blank] at fits apart
      obtain ⟨-, alone, fits⟩ := fits
      have lone : ∀ s nodes, frame.nodes ≠ .text s :: nodes := by
        intro s nodes h
        cases (apart s nodes h).2
      have later := ih fits depth false ⟨frame.tag, .text (Text.trimmed s) :: frame.nodes⟩ outer
        (fun _ _ _ => ⟨rfl, alone⟩) rest
      have no_line : (due && (trim s.toList).isEmpty) = false := by simp [blank]
      rw [Content.laid_text, Content.spaced_text_of_not_blank blank, List.map_append,
        List.append_assoc, read_newText escapes_isMarkup blank opened frame outer root lone,
        no_line, Content.nodes, List.reverse_cons, List.append_assoc]
      apply later
  | element tag inner after inner_ih after_ih =>
    obtain ⟨⟨within, tag_fits, inner_fits⟩, after_fits⟩ := fits
    have fits_inside : inner.trimmed.Fits (scopeWithin (⟨tag.qname.toList, within⟩ :: opened)) :=
      inner_fits
    -- the tree after the line before the element, and after the element
    let onLine : Frame := ⟨frame.tag, (Content.nil.afterLine due (depth + 1)).nodes ++ frame.nodes⟩
    let past : Frame :=
      ⟨frame.tag, .element (Element.spaced (depth + 1) ⟨tag, inner⟩) :: onLine.nodes⟩
    have line := read_lineStart due (depth + 1) opened frame outer root
      (by
        rintro rfl s nodes h
        cases (apart s nodes h).1)
    have whole := read_laid_element ⟨onLine :: outer, root⟩ ⟨past :: outer, root⟩ inner (depth + 1)
      tag_fits rfl fun rest => by
        have inside :=
          inner_ih fits_inside (depth + 1) true ⟨tag, []⟩ (onLine :: outer) (by simp) rest
        simpa using inside
    have later := after_ih after_fits depth true past outer (by simp [past]) rest
    rw [Content.laid_element, List.map_append, List.append_assoc, line, List.map_append,
      List.append_assoc, whole, later]
    cases due <;>
      simp [past, onLine, Content.spaced, Content.afterLine, Content.nodes, Element.spaced]

end Builder

/-- The layout of an element that fits once it is trimmed is read as that element, with a text for
each new line. -/
theorem readDocument_pretty {e : Element} (fits : e.trimmed.Fits .initial) :
  readDocument (octets e.pretty) = .ok (e.spaced 0)
  := by
  obtain ⟨within, tag_fits, content_fits⟩ := fits
  have fits_outside : e.tag.Fits (scopeWithin []) within := tag_fits
  have fits_inside : e.content.trimmed.Fits (scopeWithin [⟨e.tag.qname.toList, within⟩]) :=
    content_fits
  have whole := Builder.read_laid_element .initial ⟨[], some (e.spaced 0)⟩ e.content 0
    fits_outside rfl
    (fun rest => by
      have inside :=
        Builder.read_laid e.content fits_inside 0 true ⟨e.tag, []⟩ [] none (by simp) rest
      simpa [Builder.initial] using inside)
    []
  rw [List.append_nil, Builder.read_nil] at whole
  rw [Element.pretty_eq, octets, String.toList_ofList]
  apply Builder.readDocument_of_read rfl whole

/-! ### Printing and reading -/

/-- An element of a document, be it the root or one below it, is printed as a document that is read
as the same element up to blanks and namespaces; the root keeps its namespaces as well.  What was
read is printed the same again.  This takes readable names in the element and a document whose
declarations are written without markup characters. -/
theorem readDocument_print
    {bytes : Octets} {root e : Element} (read : readDocument bytes = .ok root)
    (plain : ∀ tag ∈ writtenTags bytes, tag.DeclaresPlainly)
    (among : e = root ∨ e ∈ root.descendants) (named : e.Named) :
  ∃ s e', e.print = .ok s ∧ readDocument (octets s) = .ok e'
    ∧ e'.trimmed.unbound = e.trimmed.unbound
    ∧ (e = root → e'.trimmed = e.trimmed)
    ∧ e'.print = .ok s
  := by
  obtain ⟨root_resolved, root_apart⟩ := readDocument_resolved read plain
  obtain ⟨around, resolved, apart, outside⟩ : ∃ around, e.Resolved around ∧ e.content.Apart
      ∧ (e = root → Scope.initial = around) := by
    by_cases is_root : e = root
    · rw [is_root]
      exact ⟨.initial, root_resolved, root_apart, fun _ => rfl⟩
    · have below := among.resolve_left is_root
      obtain ⟨within, -, content_resolved⟩ := root_resolved
      obtain ⟨around, resolved⟩ := content_resolved.of_mem_descendants below
      exact ⟨around, resolved, root_apart.of_mem_descendants below, fun h => absurd h is_root⟩
  obtain ⟨t, fits, same, here⟩ := resolved.exists_fits named apart .initial
  have trimmed_same : (t.spaced 0).trimmed.unbound = e.trimmed.unbound := by
    rw [Element.trimmed_spaced, Element.unbound_trimmed, same, Element.unbound_trimmed]
  have pretty_same : t.pretty = e.pretty := by
    apply Element.pretty_congr
    rw [Element.unbound_trimmed, same, Element.unbound_trimmed]
  have again : (t.spaced 0).pretty = e.pretty := Element.pretty_congr trimmed_same
  refine ⟨e.pretty, t.spaced 0, e.print_eq, ?_, trimmed_same, ?_, ?_⟩
  · rw [← pretty_same]
    apply readDocument_pretty fits
  · intro is_root
    rw [Element.trimmed_spaced, here (outside is_root)]
  · rw [Element.print_eq, again]

/-- A memo with a declared prefix, a quoted attribute and a text around an element. -/
def memo : Octets :=
  octets ("<m:memo xmlns:m=\"urn:memo\" to='&quot;all&quot;'>\n <p> a &amp; <![CDATA[b]]> "
    ++ "<m:br/>\n</p><!-- done --></m:memo>")

/-- The root element of the memo. -/
def memoRoot : Element where
  tag := ⟨"m:memo", some "urn:memo", "memo",
    [⟨"xmlns:m", some xmlnsNs, "m", "urn:memo"⟩, ⟨"to", none, "to", "\"all\""⟩]⟩
  content := .text "\n " (.element ⟨"p", none, "p", []⟩
    (.text " a & b " (.element ⟨"m:br", some "urn:memo", "br", []⟩ .nil (.text "\n" .nil))) .nil)

/-- The memo laid out. -/
def memoPretty : String :=
  "<m:memo xmlns:m=\"urn:memo\" to=\"&quot;all&quot;\">\n  <p>a &amp; b<m:br/>\n  </p>\n</m:memo>"

theorem readDocument_print_memo :
  readDocument memo = .ok memoRoot ∧ (∀ tag ∈ writtenTags memo, tag.DeclaresPlainly)
    ∧ memoRoot.Named
    ∧ ∃ e, readDocument (octets memoPretty) = .ok e ∧ e.trimmed = memoRoot.trimmed
      ∧ e.print = .ok memoPretty
  := by
  have read : readDocument memo = .ok memoRoot := by decide +kernel
  have plain : ∀ tag ∈ writtenTags memo, tag.DeclaresPlainly := by decide +kernel
  have named : memoRoot.Named := by decide +kernel
  use read, plain, named
  obtain ⟨s, e, printed, reads, -, same, again⟩ := readDocument_print read plain (.inl rfl) named
  have text : memoRoot.print = .ok memoPretty := by decide +kernel
  obtain rfl : s = memoPretty := Except.ok.inj (printed.symm.trans text)
  exact ⟨e, reads, same rfl, again⟩

end OlapClient.Markup
