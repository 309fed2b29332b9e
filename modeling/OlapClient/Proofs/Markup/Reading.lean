import Mathlib.Tactic.Common
import OlapClient.Markup.Document
import OlapClient.Proofs.Markup.Reference
import OlapClient.Proofs.Markup.Tag
import OlapClient.Proofs.Text.Coding

/-!
# Reading piece by piece

`Builder.read` is the tree that what is left of a document makes of a tree under construction.
Each theorem about it takes one piece off the front: a character that is no markup adds itself to
the text, an escaped text adds the text, a start tag opens an element, an end tag closes it, an
empty tag does both, and a processing instruction is passed over.  What follows the piece is
arbitrary, so the theorems chain.
-/

namespace OlapClient.Markup

open OlapClient.Text

/-- The tree after what is left of a document, whose open elements are `opened`. -/
def Builder.read (b : Builder) (opened : List OpenElement) (symbols : List Symbol) :
    Except Defect Builder :=
  b.run (readEvents opened (tokens symbols))

namespace Builder

theorem read_nil (b : Builder) (opened : List OpenElement) :
  b.read opened [] = .ok b
  := by
  rw [read, tokens]
  rfl

/-- A text is a document when it is read as a root element, unless a byte order mark begins it. -/
theorem readDocument_of_read
    {cs : List Char} {e : Element} (start : dropMark (cs.map some) = cs.map some)
    (reads : Builder.initial.read [] (cs.map some) = .ok ⟨[], some e⟩) :
  readDocument (encode cs) = .ok e
  := by
  have built : buildTree (documentEvents (encode cs)) = .ok e := by
    rw [documentEvents, decode_encode, start]
    rw [read] at reads
    rw [buildTree, reads]
    rfl
  rw [readDocument, built]
  rfl

theorem tokens_of_readToken
    {symbols rest : List Symbol} {token : Token} (h : readToken symbols = some (token, rest)) :
  tokens symbols = some token :: tokens rest
  := by
  cases symbols with
  | nil => simp [readToken] at h
  | cons s symbols =>
    rw [tokens]
    split
    · rename_i fails
      rw [h] at fails
      cases fails
    · rename_i found
      rw [h] at found
      cases found
      rfl

/-- The front of a document that is a token goes into the tree as its event. -/
theorem read_token
    {b b' : Builder} {opened opened' : List OpenElement} {symbols rest : List Symbol}
    {token : Token} {event : Event} (token_eq : readToken symbols = some (token, rest))
    (event_eq : readEvent opened token = some (event, opened'))
    (step_eq : b.step event = .ok b') :
  b.read opened symbols = b'.read opened' rest
  := by
  rw [read, tokens_of_readToken token_eq, readEvents, event_eq]
  simp only [run, step_eq]
  rfl

/-! ### Texts -/

theorem pushText_pushText (s t : String) (nodes : List Node) :
  pushText t (pushText s nodes) = pushText (s ++ t) nodes
  := by
  rcases nodes with _ | ⟨_ | _, _⟩ <;> simp [pushText, String.append_assoc]

/-- Two texts added one after the other are added as one. -/
theorem addText_addText (b : Builder) (s t : String) :
  (b.addText s).addText t = b.addText (s ++ t)
  := by
  obtain ⟨_ | ⟨frame, outer⟩, root⟩ := b
  · rfl
  · simp [addText, pushText_pushText]

/-- Adds the characters of a text one by one. -/
def addChars (b : Builder) (cs : List Char) : Builder :=
  cs.foldl (fun b c => b.addText (String.singleton c)) b

theorem addChars_cons (b : Builder) (c : Char) (cs : List Char) :
  b.addChars (c :: cs) = (b.addText (String.singleton c)).addChars cs
  := rfl

/-- The characters of a text that is not empty make the text. -/
theorem addChars_eq_addText (b : Builder) {cs : List Char} (h : cs ≠ []) :
  b.addChars cs = b.addText (String.ofList cs)
  := by
  induction cs generalizing b with
  | nil => apply absurd rfl h
  | cons c cs ih =>
    rw [addChars_cons]
    by_cases last : cs = []
    · rw [last]
      rfl
    · rw [ih _ last, addText_addText]
      congr 1
      apply String.toList_inj.mp
      simp

theorem read_text
    (b : Builder) (opened : List OpenElement) {s : Symbol} (h : endsText s = false)
    (rest : List Symbol) :
  b.read opened (s :: rest) =
    match characters? (s :: rest.takeWhile (!endsText ·)) with
    | some cs => (b.addText (String.ofList cs)).read opened (rest.dropWhile (!endsText ·))
    | none => .error .notWellFormed
  := by
  have token : readToken (s :: rest)
      = (characters? (s :: rest.takeWhile (!endsText ·))).map fun cs =>
          (.text cs, rest.dropWhile (!endsText ·)) := by
    simp only [endsText, Bool.or_eq_false_iff, beq_eq_false_iff_ne] at h
    rw [readToken]
    · simp [endsText, h]
    · simp
    · rintro _ ⟨⟩
      apply h.1 rfl
    · rintro _ ⟨⟩
      apply h.2 rfl
  cases found : characters? (s :: rest.takeWhile (!endsText ·)) with
  | some cs =>
    rw [found] at token
    apply read_token token rfl rfl
  | none =>
    rw [found, Option.map_none] at token
    rw [read, tokens]
    split
    · rfl
    · rename_i read
      rw [token] at read
      cases read

/-- A character that is no markup adds itself to the text around it. -/
theorem read_char
    (b : Builder) (opened : List OpenElement) {c : Char} (h : endsText (some c) = false)
    (rest : List Symbol) :
  b.read opened (some c :: rest) = (b.addText (String.singleton c)).read opened rest
  := by
  rw [read_text b opened h]
  cases rest with
  | nil => rfl
  | cons s rest =>
    by_cases ends : endsText s
    · simp only [List.takeWhile_cons, List.dropWhile_cons, ends]
      rfl
    · have goes : endsText s = false := by simpa using ends
      rw [read_text _ opened goes]
      simp only [List.takeWhile_cons, List.dropWhile_cons, goes, Bool.not_false, ite_true]
      rw [characters?]
      cases characters? (s :: rest.takeWhile (!endsText ·)) with
      | none => rfl
      | some cs =>
        rw [Option.map_some]
        simp only [addText_addText]
        congr 2
        apply String.toList_inj.mp
        simp

/-- A reference adds the character that it stands for. -/
theorem read_reference
    (b : Builder) (opened : List OpenElement) {name : List Char} {c : Char}
    (plain : ∀ d ∈ name, endsName (some d) = false) (resolves : characterOf name = .ok c)
    (rest : List Symbol) :
  b.read opened (some '&' :: (name.map some ++ some ';' :: rest))
    = (b.addText (String.singleton c)).read opened rest
  := by
  have ends : ∀ s ∈ name.map some, endsName s = false := by
    intro s hs
    obtain ⟨d, hd, rfl⟩ := List.mem_map.mp hs
    apply plain d hd
  have token : readToken (some '&' :: (name.map some ++ some ';' :: rest))
      = some (.reference name, rest) := by
    rw [readToken, readReference, cut_append rest (by decide) ends]
    simp
  apply read_token token rfl
  simp [step, resolves]

theorem endsName_of_mem_referenceName {c d : Char} (h : d ∈ referenceName c) :
  endsName (some d) = false
  := by
  have letter := isAlpha_of_mem_referenceName h
  have semicolon : d ≠ ';' := by
    rintro rfl
    revert letter
    decide
  have ampersand : d ≠ '&' := by
    rintro rfl
    revert letter
    decide
  have bracket : d ≠ '<' := by
    rintro rfl
    revert letter
    decide
  simp [endsName, semicolon, ampersand, bracket]

/-- A class of markup characters that holds those at which a text ends. -/
structure Escapes (special : Char → Bool) : Prop where
  known : ∀ c, special c → isMarkupOrQuote c
  ends : ∀ c, endsText (some c) → special c

theorem escapes_isMarkupOrQuote :
  Escapes isMarkupOrQuote
  := by
  constructor
  · intro c h
    apply h
  · intro c h
    simp only [endsText, Bool.or_eq_true, beq_iff_eq, Option.some.injEq] at h
    rcases h with rfl | rfl <;> decide

theorem escapes_isMarkup :
  Escapes isMarkup
  := by
  constructor
  · intro c h
    simp [isMarkupOrQuote, h]
  · intro c h
    simp only [endsText, Bool.or_eq_true, beq_iff_eq, Option.some.injEq] at h
    rcases h with rfl | rfl <;> decide

/-- An escaped text adds the characters of the text. -/
theorem read_escape
    {special : Char → Bool} (class_ : Escapes special) (b : Builder)
    (opened : List OpenElement) (cs : List Char) (rest : List Symbol) :
  b.read opened ((escape special cs).map some ++ rest) = (b.addChars cs).read opened rest
  := by
  induction cs generalizing b with
  | nil => rfl
  | cons c cs ih =>
    rw [addChars_cons, ← ih]
    by_cases h : special c
    · have markup := class_.known c h
      rw [escape_cons_of_special h, referenceFor_eq markup]
      have piece := read_reference b opened (fun d hd => endsName_of_mem_referenceName hd)
        (characterOf_referenceName markup) ((escape special cs).map some ++ rest)
      rw [← piece]
      simp
    · have plain : special c = false := by simpa using h
      have goes : endsText (some c) = false := by
        by_contra ends
        apply h
        apply class_.ends c (by simpa using ends)
      rw [escape_cons_of_plain plain, List.map_cons, List.cons_append, read_char b opened goes]

/-! ### Tags -/

/-- A start tag opens an element. -/
theorem read_startTag
    (b : Builder) (opened : List OpenElement) {tag : WrittenTag} (regular : tag.Regular)
    {resolved : Tag} {scope : Scope}
    (resolves : resolveTag (scopeWithin opened) tag = some (resolved, scope))
    (rest : List Symbol) :
  b.read opened (some '<' :: (tag.chars.map some ++ some '>' :: rest))
    = (⟨⟨resolved, []⟩ :: b.opened, b.root⟩ : Builder).read (⟨tag.name, scope⟩ :: opened) rest
  := by
  have event : readEvent opened (.startTag tag)
      = some (.start resolved, ⟨tag.name, scope⟩ :: opened) := by
    simp [readEvent, resolves]
  apply read_token (readToken_startTag regular rest) event rfl

/-- An empty tag adds an element without content. -/
theorem read_emptyTag
    {b b' : Builder} (opened : List OpenElement) {tag : WrittenTag} (regular : tag.Regular)
    {resolved : Tag} {scope : Scope}
    (resolves : resolveTag (scopeWithin opened) tag = some (resolved, scope))
    (added : b.addElement ⟨resolved, .nil⟩ = .ok b') (rest : List Symbol) :
  b.read opened (some '<' :: (tag.chars.map some ++ some '/' :: some '>' :: rest))
    = b'.read opened rest
  := by
  have event : readEvent opened (.emptyTag tag) = some (.empty resolved, opened) := by
    simp [readEvent, resolves]
  apply read_token (readToken_emptyTag regular rest) event
  apply added

/-- An end tag with the name of the innermost open element finishes that element. -/
theorem read_endTag
    {b b' : Builder} (frame : Frame) (opened : List OpenElement) {name : List Char}
    (named : isNameToken name) (scope : Scope) (added : b.addElement (finish frame) = .ok b')
    (rest : List Symbol) :
  (⟨frame :: b.opened, b.root⟩ : Builder).read (⟨name, scope⟩ :: opened)
      (some '<' :: some '/' :: (name.map some ++ some '>' :: rest))
    = b'.read opened rest
  := by
  have event : readEvent (⟨name, scope⟩ :: opened) (.endTag name) = some (.stop, opened) := by
    simp [readEvent]
  apply read_token (readToken_endTag named rest) event
  apply added

/-- A processing instruction leaves no trace. -/
theorem read_instruction
    (b : Builder) (opened : List OpenElement) (cs : List Char) (mark : '?' ∉ cs)
    (start : cs.head? ≠ some '>') (rest : List Symbol) :
  b.read opened (some '<' :: some '?' :: (cs.map some ++ some '?' :: some '>' :: rest))
    = b.read opened rest
  := by
  have found : cutMark (symbolsOf "?>") (cs.map some ++ some '?' :: some '>' :: rest)
      = some (cs.map some, rest) := by
    apply cutMark_append (a := some '?') (by simpa using mark) [some '>'] rest
  have token : readToken (some '<' :: some '?' :: (cs.map some ++ some '?' :: some '>' :: rest))
      = some (.skipped, rest) := by
    rw [readToken, readMarkup, readInstruction]
    · simp [closedBy, found]
    · intro after h
      cases cs with
      | nil => simp at h
      | cons c cs =>
        simp only [List.map_cons, List.cons_append, List.cons.injEq, Option.some.injEq] at h
        simp [h.1] at start
  apply read_token token rfl rfl

end Builder

end OlapClient.Markup
