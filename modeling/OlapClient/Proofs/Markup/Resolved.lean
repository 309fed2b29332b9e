import Mathlib.Data.List.Forall2
import Mathlib.Data.List.Nodup
import Mathlib.Tactic.Common
import OlapClient.Proofs.Markup.Building
import OlapClient.Proofs.Markup.Trimmed
import OlapClient.Proofs.Markup.Written

/-!
# Elements resolved in a scope

Content is `Resolved` in a scope when each of its tags declares the bindings of the scope within it
and has the namespaces that this scope gives to its names.  The elements of a document are resolved
as long as its declarations are written without references, since a namespace is bound as it is
written.  Up to its namespaces, content resolved in one scope is resolved in any other.
-/

namespace OlapClient.Markup

open OlapClient.Text

/-! ### Resolved tags -/

namespace Tag

/-- The names and the values of the attributes of a tag. -/
def items (t : Tag) : List (String × String) :=
  t.attributes.map fun a => (a.qname, a.value)

/-- A tag declares the bindings between two scopes, and the inner scope gives it the namespaces
that it has. -/
structure Resolved (around : Scope) (t : Tag) (within : Scope) : Prop where
  distinct : (t.items.map (·.1)).Nodup
  declares : around.declare t.source.attributes = some within
  named : within.tag t.qname t.items = t

/-- The names of a tag are name tokens. -/
structure Named (t : Tag) : Prop where
  name : isNameToken t.qname.toList
  keys : ∀ a ∈ t.attributes, isNameToken a.qname.toList

instance (t : Tag) : Decidable t.Named :=
  decidable_of_iff (isNameToken t.qname.toList ∧ ∀ a ∈ t.attributes, isNameToken a.qname.toList)
    ⟨fun h => ⟨h.1, h.2⟩, fun h => ⟨h.name, h.keys⟩⟩

end Tag

/-! ### Tags of a document are resolved -/

/-- Attributes that say the same about namespaces declare the same bindings. -/
theorem Scope.declare_congr
    {items items' : List (List Char × List Char)}
    (same : List.Forall₂ (fun i i' => declaration i = declaration i') items items')
    (scope : Scope) :
  scope.declare items = scope.declare items'
  := by
  induction same generalizing scope with
  | nil => rfl
  | cons first _ ih =>
    rw [declare, declare, first]
    split
    · apply ih
    · apply ih
    · rfl

/-- What a plain declaration says is what it says when its value is resolved and written again. -/
theorem declaration_eq
    {item : List Char × List Char} {value : List Char}
    (plain : Scope.isDeclaring item.1 → item.2.any isMarkupOrQuote = false)
    (resolves : unescape item.2 = some value) :
  declaration (item.1, escape isMarkupOrQuote value) = declaration item
  := by
  obtain ⟨key, raw⟩ := item
  by_cases declaring : Scope.isDeclaring key
  · have bare : ∀ c ∈ raw, isMarkupOrQuote c = false := by simpa using plain declaring
    rw [unescape_of_plain bare] at resolves
    cases resolves
    rw [escape_of_plain bare]
  · have other : Scope.isDeclaring key = false := by simpa using declaring
    rw [Scope.declaration_of_not_isDeclaring other, Scope.declaration_of_not_isDeclaring other]

theorem resolveAttribute_eq_some
    {scope : Scope} {item : List Char × List Char} {a : Attribute}
    (h : resolveAttribute scope item = some a) :
  a.qname.toList = item.1 ∧ unescape item.2 = some a.value.toList
    ∧ scope.attributeOf (a.qname, a.value) = a
  := by
  obtain ⟨value, resolves, rfl⟩ := Option.map_eq_some_iff.mp h
  simp [Scope.attributeOf, resolves]

/-- A written tag is resolved in the scope that it was read in. -/
theorem resolved_of_resolveTag
    {around within : Scope} {written : WrittenTag} {t : Tag} (distinct : written.Distinct)
    (plain : written.DeclaresPlainly) (h : resolveTag around written = some (t, within)) :
  t.Resolved around within
  := by
  simp only [resolveTag, Option.bind_eq_bind, Option.bind_eq_some_iff, Option.pure_def,
    Option.some.injEq, Prod.mk.injEq] at h
  obtain ⟨scope, declares, attributes, resolved, rfl, rfl⟩ := h
  have each := mapM_eq_some_iff.mp resolved
  have keys : attributes.map (·.qname.toList) = written.attributes.map (·.1) := by
    rw [← List.forall₂_eq_eq_eq, List.forall₂_map_left_iff, List.forall₂_map_right_iff]
    apply each.imp
    intro a item h
    apply (resolveAttribute_eq_some h).1
  have named : attributes.map (scope.attributeOf ∘ fun a => (a.qname, a.value)) = attributes := by
    have both := each.imp fun a item h => And.intro (resolveAttribute_eq_some h).2.2 h
    have one := ((List.forall₂_and_left attributes _).mp both).1
    apply (List.map_congr_left one).trans (List.map_id' attributes)
  have declarations : List.Forall₂
      (fun item a =>
        declaration item = declaration (a.qname.toList, escape isMarkupOrQuote a.value.toList))
      written.attributes attributes := by
    apply ((List.forall₂_and_left written.attributes _).mpr ⟨plain, each.flip⟩).imp
    rintro item a ⟨plain, h⟩
    obtain ⟨key, resolves, -⟩ := resolveAttribute_eq_some h
    rw [key, declaration_eq plain resolves]
  constructor
  · apply List.Nodup.of_map String.toList
    rw [Tag.items, List.map_map, List.map_map, Function.comp_def, Function.comp_def, keys]
    apply distinct
  · rw [← declares]
    symm
    apply Scope.declare_congr
    rw [Tag.source, List.forall₂_map_right_iff]
    apply declarations
  · simp [Scope.tag, Tag.items, named]

/-! ### Resolved content -/

/-- Each tag of content is resolved in the scope around it. -/
def Content.Resolved : Content → Scope → Prop
  | nil, _ => True
  | text _ rest, scope => rest.Resolved scope
  | element tag inner rest, scope =>
    (∃ within, tag.Resolved scope within ∧ inner.Resolved within) ∧ rest.Resolved scope

/-- Each tag of an element is resolved in the scope around it. -/
def Element.Resolved (e : Element) (scope : Scope) : Prop :=
  ∃ within, e.tag.Resolved scope within ∧ e.content.Resolved within

/-- The names of content are name tokens, at any depth. -/
def Content.Named (c : Content) : Prop :=
  ∀ e ∈ c.descendants, e.tag.Named

/-- The names of an element are name tokens, at any depth. -/
def Element.Named (e : Element) : Prop :=
  e.tag.Named ∧ e.content.Named

instance (e : Element) : Decidable e.Named :=
  inferInstanceAs (Decidable (e.tag.Named ∧ ∀ e' ∈ e.content.descendants, e'.tag.Named))

namespace Content

theorem resolved_iff (c : Content) (scope : Scope) :
  c.Resolved scope ↔ ∀ e, .element e ∈ c.nodes → e.Resolved scope
  := by
  induction c with
  | nil => simp [Resolved, nodes]
  | text s rest ih => simp [Resolved, nodes, ih]
  | element tag inner rest _ ih =>
    simp only [Resolved, nodes, List.mem_cons, Node.element.injEq, forall_eq_or_imp, ih]
    rfl

theorem named_element_iff {tag : Tag} {inner rest : Content} :
  (element tag inner rest).Named ↔ (tag.Named ∧ inner.Named) ∧ rest.Named
  := by
  simp only [Named, descendants, List.mem_cons, List.mem_append, or_imp, forall_and, forall_eq,
    and_assoc]

end Content

theorem Content.Resolved.of_mem_descendants
    {c : Content} {scope : Scope} (h : c.Resolved scope) {e : Element} (he : e ∈ c.descendants) :
  ∃ around, e.Resolved around
  := by
  induction c generalizing scope with
  | nil => simp [descendants] at he
  | text s rest ih => exact ih h he
  | element tag inner rest inner_ih rest_ih =>
    obtain ⟨⟨within, tag_resolved, inner_resolved⟩, rest_resolved⟩ := h
    simp only [descendants, List.mem_cons, List.mem_append] at he
    rcases he with rfl | he | he
    · exact ⟨scope, within, tag_resolved, inner_resolved⟩
    · apply inner_ih inner_resolved he
    · apply rest_ih rest_resolved he

/-! ### Resolved elements are read as they are written -/

/-- The bindings that attributes declare have nothing to do with the scope around them. -/
theorem Scope.exists_declare_eq
    {scope within : Scope} {items : List (List Char × List Char)}
    (h : scope.declare items = some within) (scope' : Scope) :
  ∃ within', scope'.declare items = some within'
  := by
  induction items generalizing scope scope' with
  | nil => exact ⟨scope', rfl⟩
  | cons item items ih =>
    rw [declare] at h ⊢
    split at h
    · apply ih h
    · apply ih h
    · cases h

theorem Scope.unbound_tag
    (within within' : Scope) (qname : String) (items : List (String × String)) :
  (within'.tag qname items).unbound = (within.tag qname items).unbound
  := by
  simp [tag, Tag.unbound, attributeOf, Attribute.unbound]

/-- A resolved tag with readable names agrees, up to its namespaces, with a tag that fits any given
scope; in its own scope that is the tag itself. -/
theorem Tag.Resolved.exists_fits
    {around within : Scope} {t : Tag} (h : t.Resolved around within) (named : t.Named)
    (scope : Scope) :
  ∃ t' within', t'.Fits scope within' ∧ t'.unbound = t.unbound
    ∧ (scope = around → t' = t ∧ within' = within)
  := by
  obtain ⟨within', declares⟩ := Scope.exists_declare_eq h.declares scope
  use within'.tag t.qname t.items, within'
  refine ⟨?_, ?_, ?_⟩
  · apply Scope.Allows.fits
    constructor
    · apply named.name
    · intro item hitem
      obtain ⟨a, ha, rfl⟩ := List.mem_map.mp hitem
      apply named.keys a ha
    · apply h.distinct
    · rw [items, List.map_map]
      apply declares
  · rw [Scope.unbound_tag within, h.named]
  · rintro rfl
    obtain rfl : within = within' := by simpa [h.declares] using declares
    exact ⟨h.named, rfl⟩

namespace Content

theorem beginsWithText_unbound (c : Content) :
  c.unbound.beginsWithText = c.beginsWithText
  := by
  cases c <;> rfl

theorem beginsWithText_trimmed {c : Content} (h : c.beginsWithText = false) :
  c.trimmed.beginsWithText = false
  := by
  cases c with
  | nil => rfl
  | text s rest => cases h
  | element tag inner rest => rfl

/-- Resolved content with readable names agrees, up to its namespaces, with content that fits any
given scope once it is trimmed; in its own scope that is the content itself. -/
theorem Resolved.exists_fits
    {c : Content} {around : Scope} (resolved : c.Resolved around) (named : c.Named)
    (apart : c.Apart) (scope : Scope) :
  ∃ c' : Content, c'.trimmed.Fits scope ∧ c'.unbound = c.unbound ∧ (scope = around → c' = c)
  := by
  induction c generalizing around scope with
  | nil => exact ⟨nil, trivial, rfl, fun _ => rfl⟩
  | text s rest ih =>
    obtain ⟨alone, rest_apart⟩ := apart
    obtain ⟨rest', fits, same, here⟩ := ih resolved named rest_apart scope
    use text s rest'
    refine ⟨?_, ?_, ?_⟩
    · by_cases blank : trim s.toList = []
      · rw [trimmed_text_of_blank blank]
        apply fits
      · rw [trimmed_text_of_not_blank blank]
        refine ⟨?_, ?_, fits⟩
        -- a blank text that is left out stands between elements, so no texts come to touch
        · intro empty
          apply blank
          rw [← toList_trimmed, empty]
          rfl
        · apply beginsWithText_trimmed
          rw [← beginsWithText_unbound, same, beginsWithText_unbound, alone]
    · rw [unbound, same, unbound]
    · intro h
      rw [here h]
  | element tag inner rest inner_ih rest_ih =>
    obtain ⟨⟨within, tag_resolved, inner_resolved⟩, rest_resolved⟩ := resolved
    obtain ⟨⟨tag_named, inner_named⟩, rest_named⟩ := named_element_iff.mp named
    obtain ⟨inner_apart, rest_apart⟩ := apart
    obtain ⟨tag', within', tag_fits, tag_same, tag_here⟩ :=
      tag_resolved.exists_fits tag_named scope
    obtain ⟨inner', inner_fits, inner_same, inner_here⟩ :=
      inner_ih inner_resolved inner_named inner_apart within'
    obtain ⟨rest', rest_fits, rest_same, rest_here⟩ :=
      rest_ih rest_resolved rest_named rest_apart scope
    use element tag' inner' rest'
    refine ⟨?_, ?_, ?_⟩
    · exact ⟨⟨within', tag_fits, inner_fits⟩, rest_fits⟩
    · rw [unbound, tag_same, inner_same, rest_same, unbound]
    · intro h
      obtain ⟨rfl, same_within⟩ := tag_here h
      rw [inner_here same_within, rest_here h]

end Content

/-- A resolved element with readable names agrees, up to its namespaces, with an element that fits
any given scope once it is trimmed; in its own scope that is the element itself. -/
theorem Element.Resolved.exists_fits
    {e : Element} {around : Scope} (resolved : e.Resolved around) (named : e.Named)
    (apart : e.content.Apart) (scope : Scope) :
  ∃ e' : Element, e'.trimmed.Fits scope ∧ e'.unbound = e.unbound ∧ (scope = around → e' = e)
  := by
  obtain ⟨within, tag_resolved, content_resolved⟩ := resolved
  obtain ⟨tag', within', tag_fits, tag_same, tag_here⟩ := tag_resolved.exists_fits named.1 scope
  obtain ⟨content', content_fits, content_same, content_here⟩ :=
    content_resolved.exists_fits named.2 apart within'
  use ⟨tag', content'⟩
  refine ⟨⟨within', tag_fits, content_fits⟩, ?_, ?_⟩
  · rw [unbound, tag_same, content_same, unbound]
  · intro h
    obtain ⟨rfl, same_within⟩ := tag_here h
    rw [content_here same_within]

/-! ### Elements of a document are resolved -/

/-- The elements under construction are resolved, each in the scope within the one around it. -/
inductive Resolving : List OpenElement → List Frame → Prop where
  | outside : Resolving [] []
  | inside {o : OpenElement} {outer : List OpenElement} {frame : Frame} {frames : List Frame}
      (tag : frame.tag.Resolved (scopeWithin outer) o.scope)
      (nodes : ∀ e, .element e ∈ frame.nodes → e.Resolved o.scope)
      (rest : Resolving outer frames) : Resolving (o :: outer) (frame :: frames)

theorem mem_pushText_iff {s : String} {nodes : List Node} {e : Element} :
  .element e ∈ pushText s nodes ↔ .element e ∈ nodes
  := by
  unfold pushText
  split <;> simp

namespace Builder

/-- A tree under construction is resolved. -/
structure Resolving (opened : List OpenElement) (b : Builder) : Prop where
  frames : Markup.Resolving opened b.opened
  root : ∀ e, b.root = some e → e.Resolved .initial

variable {b b' : Builder} {opened opened' : List OpenElement}

theorem Resolving.addText (h : b.Resolving opened) (s : String) :
  (b.addText s).Resolving opened
  := by
  obtain ⟨frames, root⟩ := b
  obtain ⟨resolving, root_resolved⟩ := h
  cases resolving with
  | outside => exact ⟨.outside, root_resolved⟩
  | inside tag nodes rest =>
    refine ⟨.inside tag ?_ rest, root_resolved⟩
    intro e he
    apply nodes e (mem_pushText_iff.mp he)

theorem Resolving.addElement
    (h : b.Resolving opened) {e : Element} (resolved : e.Resolved (scopeWithin opened))
    (added : b.addElement e = .ok b') :
  b'.Resolving opened
  := by
  obtain ⟨frames, root⟩ := b
  obtain ⟨resolving, root_resolved⟩ := h
  cases resolving with
  | outside =>
    cases root with
    | some root => cases added
    | none =>
      cases added
      refine ⟨.outside, ?_⟩
      rintro _ ⟨⟩
      apply resolved
  | inside tag nodes rest =>
    cases added
    refine ⟨.inside tag ?_ rest, root_resolved⟩
    intro e' he'
    rcases List.mem_cons.mp he' with ⟨⟨⟩⟩ | he'
    · apply resolved
    · apply nodes e' he'

/-- What a token adds to a resolved tree is resolved. -/
theorem Resolving.step
    (h : b.Resolving opened) {token : Token} {event : Event}
    (tags : ∀ tag ∈ token.tag?, tag.Distinct ∧ tag.DeclaresPlainly)
    (read : readEvent opened token = some (event, opened')) (steps : b.step event = .ok b') :
  b'.Resolving opened'
  := by
  cases token with
  | startTag written =>
    obtain ⟨distinct, plain⟩ := tags written rfl
    obtain ⟨⟨tag, within⟩, resolves, same⟩ := Option.map_eq_some_iff.mp read
    cases same
    cases steps
    have tag_resolved := resolved_of_resolveTag distinct plain resolves
    exact ⟨.inside tag_resolved (by simp) h.frames, h.root⟩
  | emptyTag written =>
    obtain ⟨distinct, plain⟩ := tags written rfl
    obtain ⟨⟨tag, within⟩, resolves, same⟩ := Option.map_eq_some_iff.mp read
    cases same
    have empty : (⟨tag, .nil⟩ : Element).Resolved (scopeWithin opened) :=
      ⟨within, resolved_of_resolveTag distinct plain resolves, trivial⟩
    apply h.addElement empty steps
  | endTag name =>
    obtain ⟨frames, root⟩ := b
    obtain ⟨resolving, root_resolved⟩ := h
    cases resolving with
    | outside => cases read
    | @inside o outer frame frames tag nodes rest =>
      have finished : (finish frame).Resolved (scopeWithin outer) := by
        use o.scope, tag
        apply (Content.resolved_iff _ _).mpr
        simpa [finish] using nodes
      have around : (⟨frames, root⟩ : Builder).Resolving outer := ⟨rest, root_resolved⟩
      simp only [readEvent] at read
      split at read
      · cases read
        apply around.addElement finished steps
      · cases read
  | text cs =>
    cases read
    cases steps
    apply h.addText
  | characterData cs =>
    cases read
    cases steps
    apply h.addText
  | reference name =>
    cases read
    simp only [Builder.step] at steps
    split at steps
    · cases steps
      apply h.addText
    · cases steps
  | skipped =>
    cases read
    cases steps
    apply h

/-- What tokens make of a resolved tree is resolved. -/
theorem Resolving.run
    {found : List Token} {events : List Event} (reads : Reads opened found events)
    (h : b.Resolving opened)
    (tags : ∀ token ∈ found, ∀ tag ∈ token.tag?, tag.Distinct ∧ tag.DeclaresPlainly)
    (runs : b.run (events.map some) = .ok b') :
  ∃ opened', b'.Resolving opened'
  := by
  induction reads generalizing b with
  | nil opened =>
    cases runs
    exact ⟨opened, h⟩
  | @cons opened opened' token event found events read rest ih =>
    rw [List.map_cons, Builder.run] at runs
    split at runs
    · rename_i b₁ steps
      have first := h.step (tags token (by simp)) read steps
      apply ih first (fun token' among => tags token' (by simp [among])) runs
    · cases runs

end Builder

/-- Where events make a tree they are all delivered, and their references stand for characters. -/
theorem exists_events_of_run
    {b b' : Builder} {places : List (Option Event)} (runs : b.run places = .ok b') :
  ∃ events, places = events.map some ∧ Resolves events
  := by
  induction places generalizing b with
  | nil => exact ⟨[], rfl, by simp [Resolves]⟩
  | cons place places ih =>
    cases place with
    | none => cases runs
    | some event =>
      rw [Builder.run] at runs
      split at runs
      · rename_i b₁ steps
        obtain ⟨events, rfl, resolves⟩ := ih runs
        use event :: events, rfl
        intro name among
        rcases List.mem_cons.mp among with rfl | among
        · simp only [Builder.step] at steps
          split at steps
          · rename_i c stands
            exact ⟨c, stands⟩
          · cases steps
        · apply resolves name among
      · cases runs

theorem buildTree_eq_ok
    {places : List (Option Event)} {root : Element} (h : buildTree places = .ok root) :
  ∃ b, Builder.initial.run places = .ok b ∧ b.root = some root
  := by
  rw [buildTree] at h
  cases runs : Builder.initial.run places with
  | error defect =>
    rw [runs] at h
    cases h
  | ok b =>
    rw [runs] at h
    change b.result = .ok root at h
    unfold Builder.result at h
    split at h
    · split at h
      · rename_i root' finished
        cases h
        exact ⟨b, rfl, finished⟩
      · cases h
    · cases h

/-- The root element of a document is resolved, and no two texts in it touch. -/
theorem readDocument_resolved
    {bytes : Octets} {root : Element} (read : readDocument bytes = .ok root)
    (plain : ∀ tag ∈ writtenTags bytes, tag.DeclaresPlainly) :
  root.Resolved .initial ∧ root.content.Apart
  := by
  have built : buildTree (documentEvents bytes) = .ok root := by
    rw [readDocument] at read
    cases tree : buildTree (documentEvents bytes) with
    | ok root' =>
      rw [tree] at read
      cases read
      rfl
    | error defect =>
      rw [tree] at read
      cases read
  obtain ⟨b, runs, finished⟩ := buildTree_eq_ok built
  obtain ⟨events, delivered, resolves⟩ := exists_events_of_run runs
  obtain ⟨found, tokens_eq, reads⟩ := reads_of_readEvents delivered
  rw [delivered] at built runs
  constructor
  · have tags : ∀ token ∈ found, ∀ tag ∈ token.tag?, tag.Distinct ∧ tag.DeclaresPlainly := by
      intro token among tag is_tag
      have place : some token ∈ tokens (dropMark (decode bytes)) := by
        rw [tokens_eq]
        apply List.mem_map_of_mem among
      use distinct_of_mem_tokens place tag is_tag
      apply plain
      apply List.mem_filterMap.mpr ⟨some token, place, is_tag⟩
    have nothing : Builder.initial.Resolving [] := ⟨.outside, by rintro _ ⟨⟩⟩
    obtain ⟨opened, resolving⟩ := nothing.run reads tags runs
    apply resolving.root root finished
  · obtain ⟨⟨depth, opened⟩, -⟩ := reads.opened_and_isOf
    apply Element.apart_of_pieces
    rcases buildTree_cases resolves opened with ⟨root', same, -, -, pieces⟩ | ⟨defect, fails, -⟩
    · rw [built] at same
      cases same
      rw [pieces]
      apply Piece.apart_joinTexts
    · rw [built] at fails
      cases fails

end OlapClient.Markup
