import Mathlib.Data.List.DropRight
import Mathlib.Tactic.Common
import OlapClient.Markup.Layout
import OlapClient.Proofs.Text.Coding

/-!
# Content up to blanks and namespaces

`Content.trimmed` trims every text and leaves out the blank ones, and `Content.unbound` forgets
every namespace; the layout of content depends on it through these two forms only.
`Content.spaced` is content with a text for each new line that its layout begins.  It has the
trimmed form of the content, so it is laid out alike.
-/

namespace OlapClient.Text

theorem isBlank_of_mem_head?_dropWhile
    {c : Char} {cs : List Char} (h : c ∈ (cs.dropWhile isBlank).head?) :
  isBlank c = false
  := by
  have first := List.head?_dropWhile_not isBlank cs
  rw [Option.mem_def.mp h] at first
  simpa using first

/-- What is trimmed stays as it is. -/
@[simp]
theorem trim_trim (cs : List Char) :
  trim (trim cs) = trim cs
  := by
  apply trim_eq_self
  · intro c hc
    obtain ⟨after, whole⟩ : trim cs <+: trimStart cs := List.rdropWhile_prefix isBlank _
    have first : c ∈ (trimStart cs).head? := by
      rw [← whole, List.head?_append, Option.mem_def.mp hc]
      rfl
    apply isBlank_of_mem_head?_dropWhile first
  · intro c hc
    rw [trim, trimEnd, List.reverse_reverse] at hc
    apply isBlank_of_mem_head?_dropWhile hc

theorem trim_of_forall_isBlank {cs : List Char} (h : ∀ c ∈ cs, isBlank c) :
  trim cs = []
  := by
  have none : trimStart cs = [] := List.dropWhile_eq_nil_iff.mpr h
  rw [trim, none]
  rfl

end OlapClient.Text

namespace OlapClient.Markup

open OlapClient.Text

/-- What an element is laid out as is always a text. -/
theorem Element.print_eq (e : Element) :
  e.print = .ok e.pretty
  := by
  rw [print, laidOut, decode?, decode_encode, characters?_map_some]
  rfl

/-! ### Texts trimmed -/

/-- Content with its texts trimmed and without the blank ones, at any depth. -/
def Content.trimmed : Content → Content
  | nil => nil
  | text s rest =>
    if (trim s.toList).isEmpty then rest.trimmed else text (Text.trimmed s) rest.trimmed
  | element tag inner rest => element tag inner.trimmed rest.trimmed

/-- An element with its texts trimmed and without the blank ones. -/
def Element.trimmed (e : Element) : Element :=
  ⟨e.tag, e.content.trimmed⟩

namespace Content

variable {s : String} {rest : Content}

theorem trimmed_text_of_blank (h : trim s.toList = []) :
  (text s rest).trimmed = rest.trimmed
  := by
  simp [trimmed, h]

theorem trimmed_text_of_not_blank (h : trim s.toList ≠ []) :
  (text s rest).trimmed = text (Text.trimmed s) rest.trimmed
  := by
  simp [trimmed, h]

/-- Content that is not significant is blank, and the other way round. -/
theorem trimmed_eq_nil_iff (c : Content) :
  c.trimmed = nil ↔ c.isSignificant = false
  := by
  induction c with
  | nil => simp [trimmed, isSignificant]
  | text s rest ih =>
    by_cases blank : trim s.toList = []
    · simp [trimmed_text_of_blank blank, isSignificant, blank, ih]
    · simp [trimmed_text_of_not_blank blank, isSignificant, blank]
  | element tag inner rest _ _ => simp [trimmed, isSignificant]

theorem toList_trimmed (s : String) :
  (Text.trimmed s).toList = trim s.toList
  := String.toList_ofList

@[simp]
theorem isSignificant_trimmed (c : Content) :
  c.trimmed.isSignificant = c.isSignificant
  := by
  induction c with
  | nil => rfl
  | text s rest ih =>
    by_cases blank : trim s.toList = []
    · simp [trimmed_text_of_blank blank, isSignificant, blank, ih]
    · simp [trimmed_text_of_not_blank blank, isSignificant, toList_trimmed, ih]
  | element tag inner rest _ _ => rfl

@[simp]
theorem lineDue_trimmed (c : Content) (due : Bool) :
  c.trimmed.lineDue due = c.lineDue due
  := by
  induction c generalizing due with
  | nil => rfl
  | text s rest ih =>
    by_cases blank : trim s.toList = []
    · simp [trimmed_text_of_blank blank, lineDue, blank, ih]
    · simp [trimmed_text_of_not_blank blank, lineDue, toList_trimmed, ih]
  | element tag inner rest _ ih => simp [trimmed, lineDue, ih]

/-- The layout of content is that of its trimmed form. -/
theorem layoutBefore_trimmed (c : Content) (depth : Nat) (due : Bool) (after : List Char) :
  c.trimmed.layoutBefore depth due after = c.layoutBefore depth due after
  := by
  induction c generalizing depth due after with
  | nil => rfl
  | text s rest ih =>
    by_cases blank : trim s.toList = []
    · simp [trimmed_text_of_blank blank, layoutBefore, blank, ih, escape]
    · simp [trimmed_text_of_not_blank blank, layoutBefore, toList_trimmed, ih]
  | element tag inner rest inner_ih rest_ih => simp [trimmed, layoutBefore, inner_ih, rest_ih]

end Content

theorem Element.pretty_trimmed (e : Element) :
  e.trimmed.pretty = e.pretty
  := by
  have same := Content.layoutBefore_trimmed (.element e.tag e.content .nil) 0 false []
  rw [pretty, pretty, Content.layout, Content.layout, ← same]
  rfl

/-! ### Namespaces forgotten -/

/-- An attribute without its namespace. -/
def Attribute.unbound (a : Attribute) : Attribute :=
  { a with ns := none }

/-- A tag without its namespaces. -/
def Tag.unbound (t : Tag) : Tag :=
  { t with ns := none, attributes := t.attributes.map Attribute.unbound }

/-- Content without the namespaces of its tags, at any depth. -/
def Content.unbound : Content → Content
  | nil => nil
  | text s rest => text s rest.unbound
  | element tag inner rest => element tag.unbound inner.unbound rest.unbound

/-- An element without the namespaces of its tags. -/
def Element.unbound (e : Element) : Element :=
  ⟨e.tag.unbound, e.content.unbound⟩

theorem Tag.written_unbound (t : Tag) :
  t.unbound.written = t.written
  := by
  simp [written, unbound, Attribute.unbound, List.flatMap_map]

namespace Content

@[simp]
theorem isSignificant_unbound (c : Content) :
  c.unbound.isSignificant = c.isSignificant
  := by
  induction c with
  | nil => rfl
  | text s rest ih => simp [unbound, isSignificant, ih]
  | element tag inner rest _ _ => rfl

@[simp]
theorem lineDue_unbound (c : Content) (due : Bool) :
  c.unbound.lineDue due = c.lineDue due
  := by
  induction c generalizing due with
  | nil => rfl
  | text s rest ih => simp [unbound, lineDue, ih]
  | element tag inner rest _ ih => simp [unbound, lineDue, ih]

/-- The layout of content has no namespaces in it. -/
theorem layoutBefore_unbound (c : Content) (depth : Nat) (due : Bool) (after : List Char) :
  c.unbound.layoutBefore depth due after = c.layoutBefore depth due after
  := by
  induction c generalizing depth due after with
  | nil => rfl
  | text s rest ih => simp [unbound, layoutBefore, ih]
  | element tag inner rest inner_ih rest_ih =>
    have name : tag.unbound.qname = tag.qname := rfl
    simp [unbound, layoutBefore, Tag.written_unbound, name, inner_ih, rest_ih]

/-- Whether texts or namespaces go first makes no difference. -/
theorem unbound_trimmed (c : Content) :
  c.trimmed.unbound = c.unbound.trimmed
  := by
  induction c with
  | nil => rfl
  | text s rest ih =>
    rw [unbound]
    by_cases blank : trim s.toList = []
    · rw [trimmed_text_of_blank blank, trimmed_text_of_blank blank, ih]
    · rw [trimmed_text_of_not_blank blank, trimmed_text_of_not_blank blank, unbound, ih]
  | element tag inner rest inner_ih rest_ih => simp [trimmed, unbound, inner_ih, rest_ih]

end Content

theorem Element.pretty_unbound (e : Element) :
  e.unbound.pretty = e.pretty
  := by
  have same := Content.layoutBefore_unbound (.element e.tag e.content .nil) 0 false []
  rw [pretty, pretty, Content.layout, Content.layout, ← same]
  rfl

theorem Element.unbound_trimmed (e : Element) :
  e.trimmed.unbound = e.unbound.trimmed
  := by
  rw [trimmed, unbound, Content.unbound_trimmed]
  rfl

/-- Elements that agree up to blanks and namespaces are laid out alike. -/
theorem Element.pretty_congr {e e' : Element} (h : e'.trimmed.unbound = e.trimmed.unbound) :
  e'.pretty = e.pretty
  := by
  rw [← pretty_trimmed, ← pretty_unbound, h, pretty_unbound, pretty_trimmed]

/-! ### The lines of a layout as texts -/

theorem isBlank_of_mem_lineStart
    {due : Bool} {depth : Nat} {c : Char} (h : c ∈ lineStart due depth) :
  isBlank c
  := by
  unfold lineStart at h
  split at h
  · rcases List.mem_cons.mp h with rfl | h
    · decide
    · rw [List.eq_of_mem_replicate h]
      decide
  · simp at h

namespace Content

/-- Content after the start of a new line, where one is due. -/
def afterLine (due : Bool) (depth : Nat) (c : Content) : Content :=
  if due then text (String.ofList (lineStart true depth)) c else c

/-- The content of an element at a depth, with a text for each new line of its layout; the last of
them is that of the element's end tag. -/
def spaced (depth : Nat) (due : Bool) : Content → Content
  | nil => afterLine due depth nil
  | text s rest =>
    if (trim s.toList).isEmpty then rest.spaced depth due
    else text (Text.trimmed s) (rest.spaced depth false)
  | element tag inner rest =>
    afterLine due (depth + 1)
      (element tag (if inner.isSignificant then inner.spaced (depth + 1) true else nil)
        (rest.spaced depth true))

theorem spaced_text_of_blank
    {s : String} {rest : Content} (h : trim s.toList = []) (depth : Nat) (due : Bool) :
  (text s rest).spaced depth due = rest.spaced depth due
  := by
  simp [spaced, h]

theorem spaced_text_of_not_blank
    {s : String} {rest : Content} (h : trim s.toList ≠ []) (depth : Nat) (due : Bool) :
  (text s rest).spaced depth due = text (Text.trimmed s) (rest.spaced depth false)
  := by
  simp [spaced, h]

@[simp]
theorem trimmed_afterLine (due : Bool) (depth : Nat) (c : Content) :
  (c.afterLine due depth).trimmed = c.trimmed
  := by
  unfold afterLine
  split
  · apply trimmed_text_of_blank
    rw [String.toList_ofList]
    apply trim_of_forall_isBlank
    intro c hc
    apply isBlank_of_mem_lineStart hc
  · rfl

/-- The lines of a layout are blank. -/
theorem trimmed_spaced (c : Content) (depth : Nat) (due : Bool) :
  (c.spaced depth due).trimmed = c.trimmed
  := by
  induction c generalizing depth due with
  | nil => simp [spaced]
  | text s rest ih =>
    by_cases blank : trim s.toList = []
    · rw [spaced_text_of_blank blank, trimmed_text_of_blank blank, ih]
    · have stays : trim (Text.trimmed s).toList ≠ [] := by
        rw [toList_trimmed, trim_trim]
        apply blank
      have same : Text.trimmed (Text.trimmed s) = Text.trimmed s := by
        rw [Text.trimmed, toList_trimmed, trim_trim]
        rfl
      rw [spaced_text_of_not_blank blank, trimmed_text_of_not_blank blank,
        trimmed_text_of_not_blank stays, same, ih]
  | element tag inner rest inner_ih rest_ih =>
    rw [spaced, trimmed_afterLine, trimmed, trimmed, rest_ih]
    split
    · rw [inner_ih]
    · rename_i blank
      rw [(trimmed_eq_nil_iff inner).mpr (by simpa using blank)]
      rfl

end Content

/-- An element at a depth, with a text for each new line of its layout but the one before it. -/
def Element.spaced (depth : Nat) (e : Element) : Element :=
  ⟨e.tag, if e.content.isSignificant then e.content.spaced depth true else .nil⟩

theorem Element.trimmed_spaced (depth : Nat) (e : Element) :
  (e.spaced depth).trimmed = e.trimmed
  := by
  unfold spaced trimmed
  congr 1
  split
  · apply Content.trimmed_spaced
  · rename_i blank
    rw [(Content.trimmed_eq_nil_iff e.content).mpr (by simpa using blank)]
    rfl

end OlapClient.Markup
