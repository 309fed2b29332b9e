import OlapClient.Failure
import OlapClient.Markup.Element
import OlapClient.Markup.Escape
import OlapClient.Text.Blank
import OlapClient.Text.Utf8

/-!
# Elements laid out for reading

`Element.pretty` writes an element with each tag on a line of its own, two spaces deeper for
each open element.  A tag stays on its line where a text stands before it.  Texts are trimmed,
blank ones left out, and an element without any content left is written as an empty tag.
`Element.print` writes octets and takes them for a text only once they are known to be one.
-/

namespace OlapClient.Markup

open OlapClient.Text

/-- Spaces by which each open element moves its content. -/
def indentWidth : Nat := 2

/-- The start of a new line at a depth, where one is due. -/
def lineStart (due : Bool) (depth : Nat) : List Char :=
  if due then '\n' :: List.replicate (indentWidth * depth) ' ' else []

/-- The name and the attributes of a tag, as written between its brackets. -/
def Tag.written (t : Tag) : List Char :=
  t.qname.toList ++ t.attributes.flatMap fun a =>
    ' ' :: a.qname.toList ++ "=\"".toList ++ escape isMarkupOrQuote a.value.toList ++ ['"']

namespace Content

/-- There is an element or a text that is not blank. -/
def isSignificant : Content → Bool
  | nil => false
  | text s rest => !(trim s.toList).isEmpty || rest.isSignificant
  | element _ _ _ => true

/-- Whether a new line is due before the tag that follows the content, given whether one is
due before the content. -/
def lineDue (due : Bool) : Content → Bool
  | nil => due
  | text s rest => rest.lineDue (due && (trim s.toList).isEmpty)
  | element _ _ rest => rest.lineDue true

/-- Content laid out at a depth, in front of what is laid out after it. -/
def layoutBefore (depth : Nat) (due : Bool) (c : Content) (after : List Char) : List Char :=
  match c with
  | nil => after
  | text s rest =>
    let t := trim s.toList
    escape isMarkup t ++ rest.layoutBefore depth (due && t.isEmpty) after
  | element tag inner rest =>
    let after := rest.layoutBefore depth true after
    lineStart due depth ++ '<' :: (tag.written ++
      if inner.isSignificant then
        '>' :: inner.layoutBefore (depth + 1) true
          (lineStart (inner.lineDue true) depth ++ '<' :: '/' :: (tag.qname.toList ++ '>' :: after))
      else '/' :: '>' :: after)

/-- Content laid out at a depth. -/
def layout (depth : Nat) (due : Bool) (c : Content) : List Char :=
  c.layoutBefore depth due []

theorem layoutBefore_append
    (depth : Nat) (due : Bool) (c : Content) (before after : List Char) :
  c.layoutBefore depth due (before ++ after) = c.layoutBefore depth due before ++ after
  := by
  induction c generalizing depth due before after with
  | nil => rfl
  | text s rest ih => simp [layoutBefore, ih]
  | element tag inner rest inner_ih rest_ih =>
    have h := inner_ih (depth + 1) true
      (lineStart (inner.lineDue true) depth ++ '<' :: '/' :: (tag.qname.toList ++ '>' ::
        rest.layoutBefore depth true before)) after
    by_cases significant : inner.isSignificant <;>
      simp_all [layoutBefore]

/-- What is laid out after content comes after all that the content is laid out as. -/
theorem layoutBefore_eq
    (depth : Nat) (due : Bool) (c : Content) (after : List Char) :
  c.layoutBefore depth due after = c.layout depth due ++ after
  := layoutBefore_append depth due c [] after

end Content

/-- An element laid out for reading. -/
def Element.pretty (e : Element) : String :=
  String.ofList (Content.layout 0 false (.element e.tag e.content .nil))

/-- The octets of an element laid out for reading. -/
def Element.laidOut (e : Element) : Octets :=
  encode (Content.layout 0 false (.element e.tag e.content .nil))

/-- An element laid out for reading; a failure where its octets are those of no text. -/
def Element.print (e : Element) : Except Failure String :=
  match decode? e.laidOut with
  | some cs => .ok (String.ofList cs)
  | none => .error (.internal "pretty printer produced invalid UTF-8")

end OlapClient.Markup
