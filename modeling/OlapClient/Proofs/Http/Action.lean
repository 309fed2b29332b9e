import Mathlib.Tactic.Common
import OlapClient.Http.Endpoint
import OlapClient.Proofs.Protocol.Request

/-!
# The action of a written request

The action that announces a request is found by looking for the tag of its operation anywhere in
its octets, `Discover` first.  A text `Hides` the tag of `Discover` when the tag begins nowhere in
it, whatever follows.  Escaped texts hide it, and so does all the markup of a request to execute a
statement, so the action of a request is that of its operation.
-/

namespace OlapClient.Http

open OlapClient.Markup
open OlapClient.Protocol
open OlapClient.Text

theorem isAscii_operationMark (operation : Operation) :
  ∀ c ∈ operationMark operation, isAscii c
  := by
  rw [← List.all_eq_true]
  cases operation <;> decide

/-- The octets of a text hold a mark where the text does. -/
theorem holds_encode_iff (cs : List Char) (operation : Operation) :
  holds (encode cs) (operationMark operation) ↔ operationMark operation <:+: cs
  := by
  rw [holds, isSome_cutMark_iff]
  constructor
  · apply infix_of_encode_infix (isAscii_operationMark operation)
  · rintro ⟨before, after, rfl⟩
    simp only [encode_append]
    apply List.infix_append

/-! ### Texts in which the tag does not begin -/

/-- The tag of `Discover` begins nowhere in a text, whatever follows the text. -/
def Hides (cs : List Char) : Prop :=
  ∀ rest, operationMark .discover <:+: cs ++ rest → operationMark .discover <:+: rest

/-- The tag of `Discover` after its bracket. -/
def discoverName : List Char :=
  "Discover xmlns=\"urn:schemas-microsoft-com:xml-analysis\"".toList

theorem operationMark_discover :
  operationMark .discover = '<' :: discoverName
  := by
  decide

theorem hides_nil :
  Hides []
  := by
  intro rest h
  apply h

theorem Hides.append {cs ds : List Char} (hc : Hides cs) (hd : Hides ds) :
  Hides (cs ++ ds)
  := by
  intro rest h
  rw [List.append_assoc] at h
  apply hd rest (hc (ds ++ rest) h)

theorem Hides.flatMap {α : Type} {f : α → List Char} {l : List α} (h : ∀ a ∈ l, Hides (f a)) :
  Hides (l.flatMap f)
  := by
  induction l with
  | nil => apply hides_nil
  | cons a l ih =>
    apply (h a (by simp)).append
    apply ih fun a' ha' => h a' (by simp [ha'])

/-- The tag does not begin where there is no bracket. -/
theorem hides_of_not_mem {cs : List Char} (h : '<' ∉ cs) :
  Hides cs
  := by
  intro rest within
  induction cs with
  | nil => apply within
  | cons c cs ih =>
    simp only [List.mem_cons, not_or] at h
    rw [List.cons_append, List.infix_cons_iff] at within
    rcases within with begins | later
    · rw [operationMark_discover, List.cons_prefix_cons] at begins
      apply absurd begins.1 h.1
    · apply ih h.2 later

/-- A bracket does not begin the tag where something else follows it. -/
theorem hides_bracket
    {cs : List Char} (h : '<' ∉ cs) (differs : ∀ rest, ¬ discoverName <+: cs ++ rest) :
  Hides ('<' :: cs)
  := by
  intro rest within
  rw [List.cons_append, List.infix_cons_iff] at within
  rcases within with begins | later
  · rw [operationMark_discover, List.cons_prefix_cons] at begins
    apply absurd begins.2 (differs rest)
  · apply hides_of_not_mem h rest later

theorem hides_bracket_of_head
    {cs : List Char} (h : '<' ∉ cs) (differs : cs.head?.any (· != 'D')) :
  Hides ('<' :: cs)
  := by
  apply hides_bracket h
  intro rest begins
  have start : discoverName = 'D' :: discoverName.tail := by decide
  cases cs with
  | nil => simp at differs
  | cons c cs =>
    rw [start, List.cons_append, List.cons_prefix_cons] at begins
    simp [← begins.1] at differs

theorem hides_escape (cs : List Char) :
  Hides (escape isMarkupOrQuote cs)
  := by
  apply hides_of_not_mem
  apply not_mem_escape (fun c hc => hc) (by decide) (by decide)

/-! ### Elements -/

/-- A name that neither goes on after a space nor opens a tag. -/
structure IsPlain (name : String) : Prop where
  bracket : '<' ∉ name.toList
  space : ' ' ∉ name.toList

/-- The tag has a space where a tag without attributes ends. -/
theorem hides_startTag {name : String} (h : IsPlain name) :
  Hides (startTag name)
  := by
  have split : startTag name = '<' :: (name.toList ++ ['>']) := rfl
  rw [split]
  apply hides_bracket
  · simp [h.bracket]
  · intro rest begins
    have space : ' ' ∈ discoverName := by decide
    have closing : '>' ∉ discoverName := by decide
    rw [List.append_assoc] at begins
    rcases Nat.lt_or_ge name.toList.length discoverName.length with longer | shorter
    · have within : name.toList ++ ['>'] <+: discoverName := by
        apply List.prefix_of_prefix_length_le _ begins
        · simp only [List.length_append, List.length_singleton]
          omega
        · simp
      apply closing
      apply within.subset
      simp
    · have within : discoverName <+: name.toList := by
        apply List.prefix_of_prefix_length_le begins _ shorter
        simp
      apply h.space
      apply within.subset space

theorem hides_endTag {name : String} (h : IsPlain name) :
  Hides (endTag name)
  := by
  have split : endTag name = '<' :: ('/' :: name.toList ++ ['>']) := rfl
  rw [split]
  apply hides_bracket_of_head
  · simp [h.bracket]
  · rfl

theorem Hides.enclose {name : String} {cs : List Char} (h : Hides cs) (plain : IsPlain name) :
  Hides (enclose name cs)
  := ((hides_startTag plain).append h).append (hides_endTag plain)

theorem hides_textElement {name : String} (plain : IsPlain name) (text : String) :
  Hides (textElement name text)
  := (hides_escape text.toList).enclose plain

theorem hides_propertyText {name : String} (plain : IsPlain name) (value : Option String) :
  Hides (propertyText name value)
  := by
  cases value with
  | none => apply hides_nil
  | some text => apply hides_textElement plain

/-! ### Requests -/

theorem hides_propertyList
    (properties : Properties) {more : List (String × String)}
    (plain : ∀ item ∈ more, IsPlain item.1) :
  Hides (propertyList properties more)
  := by
  apply Hides.enclose _ (by constructor <;> decide)
  apply Hides.enclose _ (by constructor <;> decide)
  have own : Hides (more.flatMap fun item => textElement item.1 item.2) :=
    Hides.flatMap fun item hitem => hides_textElement (plain item hitem) item.2
  apply Hides.append _ own
  apply Hides.append _ (hides_propertyText (by constructor <;> decide) _)
  apply Hides.append _ (hides_propertyText (by constructor <;> decide) _)
  apply hides_propertyText (by constructor <;> decide)

theorem hides_prolog :
  Hides prolog
  := by
  have split : prolog = '<' :: prolog.tail := by decide
  rw [split]
  apply hides_bracket_of_head <;> decide

theorem hides_openingText_envelope :
  Hides (openingText "SOAP-ENV:Envelope" envelopeAttributes)
  := by
  have split : openingText "SOAP-ENV:Envelope" envelopeAttributes
      = '<' :: (openingText "SOAP-ENV:Envelope" envelopeAttributes).tail := rfl
  rw [split]
  apply hides_bracket_of_head <;> decide

theorem hides_operationTag_execute :
  Hides (operationTag .execute)
  := by
  have split : operationTag .execute = '<' :: (operationTag .execute).tail := rfl
  rw [split]
  apply hides_bracket_of_head <;> decide

/-- The tag of `Discover` begins nowhere in a request to execute a statement. -/
theorem hides_execute (statement : String) (properties : Properties) (format : Format) :
  Hides ((Request.execute statement format).text properties)
  := by
  have question : Hides (Request.execute statement format).question := by
    apply Hides.enclose _ (by constructor <;> decide)
    apply hides_textElement (by constructor <;> decide)
  have own : ∀ item ∈ (Request.execute statement format).ownProperties, IsPlain item.1 := by
    have format_plain : IsPlain "Format" := by constructor <;> decide
    have axis_plain : IsPlain "AxisFormat" := by constructor <;> decide
    cases format <;> simp [Request.ownProperties, format_plain, axis_plain]
  rw [Request.text, Request.operation, envelopeText_eq]
  apply hides_prolog.append
  apply Hides.append _ (hides_endTag (by constructor <;> decide))
  apply hides_openingText_envelope.append
  apply Hides.enclose _ (by constructor <;> decide)
  apply Hides.append _ (hides_endTag (by constructor <;> decide))
  apply hides_operationTag_execute.append
  apply question.append
  apply hides_propertyList properties own

/-! ### The action -/

/-- The document of a request holds the tag of its operation. -/
theorem operationMark_infix_text (request : Request) (properties : Properties) :
  operationMark request.operation <:+: request.text properties
  := by
  rw [Request.text, envelopeText_eq, enclose]
  apply List.infix_append_of_infix_right
  apply List.infix_append_of_infix_left
  apply List.infix_append_of_infix_right
  apply List.infix_append_of_infix_left
  apply List.infix_append_of_infix_right
  apply List.infix_append_of_infix_left
  apply List.infix_append_of_infix_left
  apply List.infix_append_left

/-- The action of a written request is that of its operation, whatever its texts. -/
theorem action_of_write (request : Request) (properties : Properties) :
  action? (request.write properties []) = some request.operation.action
  := by
  have found := operationMark_infix_text request properties
  rw [← holds_encode_iff] at found
  rw [Request.write, List.nil_append, action?, operationOf?]
  cases request with
  | execute statement format =>
    have absent : holds (encode ((Request.execute statement format).text properties))
        (operationMark .discover) = false := by
      rw [Bool.eq_false_iff]
      intro held
      rw [holds_encode_iff] at held
      have nowhere := hides_execute statement properties format [] (by simpa using held)
      simp [operationMark_discover] at nowhere
    rw [Request.operation] at found ⊢
    simp [absent, found]
  | discover requestType restrictions =>
    rw [Request.operation] at found ⊢
    simp [found]

end OlapClient.Http
