import Mathlib.Data.List.Forall2
import Mathlib.Tactic.Common
import OlapClient.Markup.Document
import OlapClient.Proofs.Markup.Pieces
import OlapClient.Proofs.Results

/-!
# Trees built from events

The pieces of a tree under construction are those of its finished root and of its open elements,
outermost first.  Each event adds its pieces to them, so the pieces of a finished tree are those
of the events: nothing is lost, doubled or moved, and texts that touch are one.  A tree is finished
exactly when one element begins outside all others and every element ends.
-/

namespace OlapClient.Markup

open OlapClient.Text

/-! ### The pieces of events -/

/-- The pieces that an event stands for; a reference stands for the text of its character. -/
def Event.pieces : Event → List Piece
  | .start tag => [.start tag]
  | .empty tag => [.start tag, .stop]
  | .stop => [.stop]
  | .text s => [.text s]
  | .reference name =>
    match characterOf name with
    | .ok c => [.text (String.singleton c)]
    | .error _ => []
  | .passed => []

/-- Every reference among events stands for a character. -/
def Resolves (events : List Event) : Prop :=
  ∀ name, .reference name ∈ events → ∃ c, characterOf name = .ok c

/-- The event that is one piece. -/
def Piece.event : Piece → Event
  | start tag => .start tag
  | text s => .text s
  | stop => .stop

namespace Builder

/-- The tree after pieces. -/
def runPieces (b : Builder) (pieces : List Piece) : Except Defect Builder :=
  b.run (pieces.map fun p => some p.event)

theorem runPieces_cons (b : Builder) (p : Piece) (rest : List Piece) :
  b.runPieces (p :: rest) =
    match b.step p.event with
    | .ok b => b.runPieces rest
    | .error defect => .error defect
  := rfl

/-- An empty tag does to a tree what a start tag and an end tag do. -/
theorem step_empty (b : Builder) (tag : Tag) :
  b.step (.empty tag) = (⟨⟨tag, []⟩ :: b.opened, b.root⟩ : Builder).step .stop
  := rfl

/-- Events do to a tree what their pieces do. -/
theorem run_eq_runPieces (b : Builder) {events : List Event} (resolves : Resolves events) :
  b.run (events.map some) = b.runPieces (events.flatMap Event.pieces)
  := by
  induction events generalizing b with
  | nil => rfl
  | cons event events ih =>
    have later (b : Builder) := ih b fun name h => resolves name (List.mem_cons_of_mem _ h)
    have single (p : Piece) : b.run (some p.event :: events.map some)
        = b.runPieces (p :: events.flatMap Event.pieces) := by
      rw [runPieces_cons, run]
      cases b.step p.event with
      | ok b => apply later
      | error defect => rfl
    rw [List.map_cons, List.flatMap_cons]
    cases event with
    | start tag => apply single (.start tag)
    | stop => apply single .stop
    | text s => apply single (.text s)
    | empty tag =>
      rw [run, step_empty]
      simp only [later]
      rfl
    | reference name =>
      obtain ⟨c, stands⟩ := resolves name (by simp)
      have same : b.step (.reference name) = b.step (.text (String.singleton c)) := by
        simp only [step, stands]
      have one : (Event.reference name).pieces = [.text (String.singleton c)] := by
        simp only [Event.pieces, stands]
      have text := single (.text (String.singleton c))
      rw [Piece.event, run, ← same] at text
      rw [one, run, text]
      rfl
    | passed => apply later

/-! ### What a piece adds to a tree -/

/-- The number of elements outside all others that a tree has begun. -/
def begun (b : Builder) : Nat :=
  (if b.root.isSome then 1 else 0) + if b.opened.isEmpty then 0 else 1

/-- The pieces of an element whose end is still to come. -/
def framePieces (frame : Frame) : List Piece :=
  .start frame.tag :: frame.nodes.reverse.flatMap Node.pieces

/-- The pieces of a tree under construction. -/
def pieces (b : Builder) : List Piece :=
  b.root.elim [] Element.pieces ++ b.opened.reverse.flatMap framePieces

theorem pieces_finish (frame : Frame) :
  (finish frame).pieces = framePieces frame ++ [.stop]
  := by
  rw [finish, Element.pieces, Content.pieces_ofNodes]
  rfl

theorem pieces_addElement {b b' : Builder} {e : Element} (added : b.addElement e = .ok b') :
  b'.pieces = b.pieces ++ e.pieces
  := by
  obtain ⟨_ | ⟨frame, outer⟩, root⟩ := b
  · cases root with
    | none =>
      cases added
      simp [pieces]
    | some root => cases added
  · cases added
    simp [pieces, framePieces, Node.pieces]

theorem pieces_addText
    {b : Builder} (apart : Piece.Apart b.pieces) (opened : b.opened ≠ []) (s : String) :
  (b.addText s).pieces = Piece.joinTexts (b.pieces ++ [.text s])
  := by
  obtain ⟨_ | ⟨⟨tag, nodes⟩, outer⟩, root⟩ := b
  · apply absurd rfl opened
  · -- what stands before the last piece of the innermost element, by what that piece is
    let front := root.elim [] Element.pieces ++ outer.reverse.flatMap framePieces
    rcases nodes with _ | ⟨t | e, nodes⟩
    · have before : pieces ⟨⟨tag, []⟩ :: outer, root⟩ = front ++ [.start tag] := by
        simp [front, pieces, framePieces]
      rw [before] at apart ⊢
      rw [Piece.joinTexts_append_text_of_not_isText apart rfl]
      simp [front, addText, pushText, pieces, framePieces, Node.pieces]
    · have before : pieces ⟨⟨tag, .text t :: nodes⟩ :: outer, root⟩
          = front ++ .start tag :: nodes.reverse.flatMap Node.pieces ++ [.text t] := by
        simp [front, pieces, framePieces, Node.pieces]
      rw [before] at apart ⊢
      rw [Piece.joinTexts_append_text_text apart]
      simp [front, addText, pushText, pieces, framePieces, Node.pieces]
    · have before : pieces ⟨⟨tag, .element e :: nodes⟩ :: outer, root⟩
          = front ++ .start tag :: (nodes.reverse.flatMap Node.pieces ++ .start e.tag
            :: e.content.pieces) ++ [.stop] := by
        simp [front, pieces, framePieces, Node.pieces, Element.pieces]
      rw [before] at apart ⊢
      rw [Piece.joinTexts_append_text_of_not_isText apart rfl]
      simp [front, addText, pushText, pieces, framePieces, Node.pieces, Element.pieces]

theorem addText_of_closed {b : Builder} (closed : b.opened = []) (s : String) :
  b.addText s = b
  := by
  rw [addText, closed]

/-- A piece adds itself, unless it is a text outside all elements; a text joins a text. -/
theorem pieces_step
    {b b' : Builder} (apart : Piece.Apart b.pieces) {p : Piece} (steps : b.step p.event = .ok b') :
  b'.pieces = Piece.joinTexts (b.pieces ++ Piece.withinRoot b.opened.length [p])
  := by
  cases p with
  | start tag =>
    cases steps
    rw [Piece.withinRoot, Piece.withinRoot, Piece.joinTexts_append_of_not_isText apart rfl]
    simp [pieces, framePieces]
  | text s =>
    cases steps
    by_cases closed : b.opened = []
    · rw [addText_of_closed closed, Piece.withinRoot, Piece.withinRoot, closed]
      simp [Piece.joinTexts_of_apart apart]
    · have deep : b.opened.length ≠ 0 := by simpa using closed
      rw [pieces_addText apart closed, Piece.withinRoot, Piece.withinRoot, if_neg deep]
  | stop =>
    obtain ⟨_ | ⟨frame, outer⟩, root⟩ := b
    · cases steps
    · rw [Piece.withinRoot, Piece.withinRoot, Piece.joinTexts_append_of_not_isText apart rfl,
        pieces_addElement steps, pieces_finish]
      simp [pieces]

/-- What pieces do to the depth of a tree and to the elements that it has begun.  A second
element outside all others is refused when it ends. -/
theorem begun_step
    (b : Builder) (p : Piece) {depth : Nat}
    (opened : Piece.openAfter b.opened.length [p] = some depth) :
  (∃ b', b.step p.event = .ok b' ∧ b'.opened.length = depth
      ∧ b'.begun = b.begun + Piece.topCount b.opened.length [p])
    ∨ b.step p.event = .error .secondRoot ∧ 2 ≤ b.begun
  := by
  obtain ⟨frames, root⟩ := b
  cases p with
  | start tag =>
    left
    cases opened
    use ⟨⟨tag, []⟩ :: frames, root⟩, rfl, rfl
    cases frames <;> simp [begun, Piece.topCount]
  | text s =>
    left
    cases opened
    cases frames with
    | nil => exact ⟨⟨[], root⟩, rfl, rfl, rfl⟩
    | cons frame outer => exact ⟨_, rfl, rfl, rfl⟩
  | stop =>
    rcases frames with _ | ⟨frame, _ | ⟨frame', outer⟩⟩
    · cases opened
    · cases opened
      cases root with
      | none =>
        left
        use ⟨[], some (finish frame)⟩, rfl, rfl
        simp [begun, Piece.topCount]
      | some e =>
        right
        use rfl
        simp [begun]
    · left
      cases opened
      use ⟨⟨frame'.tag, .element (finish frame) :: frame'.nodes⟩ :: outer, root⟩, rfl, rfl
      simp [begun, Piece.topCount]

/-! ### What pieces make of a tree -/

theorem begun_runPieces
    (b : Builder) (ps : List Piece) {depth : Nat}
    (opened : Piece.openAfter b.opened.length ps = some depth) :
  (∃ b', b.runPieces ps = .ok b' ∧ b'.opened.length = depth
      ∧ b'.begun = b.begun + Piece.topCount b.opened.length ps)
    ∨ b.runPieces ps = .error .secondRoot ∧ 2 ≤ b.begun + Piece.topCount b.opened.length ps
  := by
  induction ps generalizing b with
  | nil =>
    left
    cases opened
    exact ⟨b, rfl, rfl, rfl⟩
  | cons p ps ih =>
    rw [Piece.openAfter_cons, Option.bind_eq_some_iff] at opened
    obtain ⟨middle, first, later⟩ := opened
    rw [runPieces_cons, Piece.topCount_cons first]
    rcases begun_step b p first with ⟨b', steps, length, count⟩ | ⟨refused, count⟩
    · rw [steps]
      rw [← length] at later
      rcases ih b' later with ⟨b'', runs, length', count'⟩ | ⟨refused, count'⟩
      · left
        use b'', runs, length'
        rw [count', count, length, Nat.add_assoc]
      · right
        use refused
        rw [count, length, Nat.add_assoc] at count'
        apply count'
    · right
      rw [refused]
      use rfl
      omega

theorem pieces_runPieces
    {b b' : Builder} (apart : Piece.Apart b.pieces) {ps : List Piece} {depth : Nat}
    (opened : Piece.openAfter b.opened.length ps = some depth) (runs : b.runPieces ps = .ok b') :
  b'.pieces = Piece.joinTexts (b.pieces ++ Piece.withinRoot b.opened.length ps)
  := by
  induction ps generalizing b with
  | nil =>
    cases runs
    simp [Piece.withinRoot, Piece.joinTexts_of_apart apart]
  | cons p ps ih =>
    rw [Piece.openAfter_cons, Option.bind_eq_some_iff] at opened
    obtain ⟨middle, first, later⟩ := opened
    rw [runPieces_cons] at runs
    rcases begun_step b p first with ⟨b₁, steps, length, -⟩ | ⟨refused, -⟩
    · rw [steps] at runs
      have added := pieces_step apart steps
      have apart₁ : Piece.Apart b₁.pieces := by
        rw [added]
        apply Piece.apart_joinTexts
      rw [ih apart₁ (length ▸ later) runs, length, Piece.withinRoot_cons first, ← List.append_assoc,
        added, Piece.joinTexts_joinTexts_append]
    · rw [refused] at runs
      cases runs

end Builder

/-- The tree that events describe when their references stand for characters and no end tag ends
nothing. -/
theorem buildTree_cases
    {events : List Event} (resolves : Resolves events) {depth : Nat}
    (opened : Piece.openAfter 0 (events.flatMap Event.pieces) = some depth) :
  (∃ root, buildTree (events.map some) = .ok root
      ∧ Piece.topCount 0 (events.flatMap Event.pieces) = 1 ∧ depth = 0
      ∧ root.pieces = Piece.joinTexts (Piece.withinRoot 0 (events.flatMap Event.pieces)))
    ∨ ∃ defect, buildTree (events.map some) = .error defect
      ∧ (defect = .noRoot ∨ defect = .secondRoot ∨ defect = .unexpectedEnd)
      ∧ ¬ (Piece.topCount 0 (events.flatMap Event.pieces) = 1 ∧ depth = 0)
  := by
  have apart : Piece.Apart Builder.initial.pieces := List.isChain_nil
  have fresh : Builder.initial.begun = 0 := rfl
  rw [buildTree, Builder.run_eq_runPieces _ resolves]
  rcases Builder.begun_runPieces .initial _ opened with ⟨b, runs, length, count⟩ | ⟨refused, count⟩
  · have pieces := Builder.pieces_runPieces apart opened runs
    rw [runs]
    obtain ⟨frames, root⟩ := b
    cases frames with
    | nil =>
      cases length
      cases root with
      | some root =>
        left
        use root, rfl
        rw [fresh, Nat.zero_add] at count
        use count.symm, rfl
        simpa [Builder.pieces, Builder.initial] using pieces
      | none =>
        right
        use .noRoot, rfl, .inl rfl
        rintro ⟨one, -⟩
        rw [fresh, Nat.zero_add] at count
        apply absurd (count.trans one) (by decide)
    | cons frame outer =>
      right
      use .unexpectedEnd, rfl, .inr (.inr rfl)
      rintro ⟨-, rfl⟩
      cases length
  · right
    rw [refused]
    use .secondRoot, rfl, .inr (.inl rfl)
    rintro ⟨one, -⟩
    rw [fresh, Nat.zero_add] at count
    have length : Builder.initial.opened.length = 0 := rfl
    rw [length] at count
    omega

/-! ### Events of a document -/

/-- The events that tokens are read as, within open elements. -/
inductive Reads : List OpenElement → List Token → List Event → Prop where
  | nil (opened : List OpenElement) : Reads opened [] []
  | cons {opened opened' : List OpenElement} {token : Token} {event : Event}
      {tokens : List Token} {events : List Event}
      (read : readEvent opened token = some (event, opened'))
      (rest : Reads opened' tokens events) : Reads opened (token :: tokens) (event :: events)

theorem reads_of_readEvents
    {opened : List OpenElement} {found : List (Option Token)} {events : List Event}
    (h : readEvents opened found = events.map some) :
  ∃ tokens, found = tokens.map some ∧ Reads opened tokens events
  := by
  induction found generalizing opened events with
  | nil =>
    cases events with
    | nil => exact ⟨[], rfl, .nil opened⟩
    | cons event events => cases h
  | cons place found ih =>
    cases place with
    | none => cases events <;> simp [readEvents] at h
    | some token =>
      rw [readEvents] at h
      split at h
      · cases events <;> simp at h
      · rename_i event opened' read
        cases events with
        | nil => cases h
        | cons first events =>
          simp only [List.map_cons, List.cons.injEq, Option.some.injEq] at h
          obtain ⟨rfl, h⟩ := h
          obtain ⟨tokens, rfl, rest⟩ := ih h
          exact ⟨token :: tokens, rfl, .cons read rest⟩

/-- A tag has the name and the attributes of a written one, in order, and the references in their
values are resolved. -/
def Tag.IsOf (t : Tag) (written : WrittenTag) : Prop :=
  t.qname.toList = written.name
    ∧ List.Forall₂
      (fun a item => a.qname.toList = item.1 ∧ unescape item.2 = some a.value.toList)
      t.attributes written.attributes

/-- An event is that of a token. -/
def Event.IsOf : Event → Token → Prop
  | .start tag, .startTag written => tag.IsOf written
  | .empty tag, .emptyTag written => tag.IsOf written
  | .stop, .endTag _ => True
  | .text s, .text cs => s.toList = cs
  | .text s, .characterData cs => s.toList = cs
  | .reference name, .reference name' => name = name'
  | .passed, .skipped => True
  | _, _ => False

theorem Tag.isOf_of_resolveTag
    {around within : Scope} {written : WrittenTag} {t : Tag}
    (h : resolveTag around written = some (t, within)) :
  t.IsOf written
  := by
  simp only [resolveTag, Option.bind_eq_bind, Option.bind_eq_some_iff, Option.pure_def,
    Option.some.injEq, Prod.mk.injEq] at h
  obtain ⟨scope, -, attributes, resolved, rfl, rfl⟩ := h
  constructor
  · apply String.toList_ofList
  · apply (mapM_eq_some_iff.mp resolved).imp
    intro a item h
    obtain ⟨value, unescaped, rfl⟩ := Option.map_eq_some_iff.mp h
    simp [unescaped]

/-- What an event does to the depth is what its token does to the open elements. -/
theorem openAfter_of_readEvent
    {opened opened' : List OpenElement} {token : Token} {event : Event}
    (h : readEvent opened token = some (event, opened')) :
  Piece.openAfter opened.length event.pieces = some opened'.length ∧ event.IsOf token
  := by
  cases token with
  | startTag written =>
    obtain ⟨⟨tag, scope⟩, resolved, same⟩ := Option.map_eq_some_iff.mp h
    cases same
    exact ⟨rfl, Tag.isOf_of_resolveTag resolved⟩
  | emptyTag written =>
    obtain ⟨⟨tag, scope⟩, resolved, same⟩ := Option.map_eq_some_iff.mp h
    cases same
    exact ⟨rfl, Tag.isOf_of_resolveTag resolved⟩
  | endTag name =>
    cases opened with
    | nil => cases h
    | cons e outer =>
      simp only [readEvent] at h
      split at h
      · cases h
        exact ⟨rfl, trivial⟩
      · cases h
  | text cs =>
    cases h
    exact ⟨rfl, String.toList_ofList⟩
  | characterData cs =>
    cases h
    exact ⟨rfl, String.toList_ofList⟩
  | reference name =>
    cases h
    rw [Event.pieces]
    split <;> exact ⟨rfl, rfl⟩
  | skipped =>
    cases h
    exact ⟨rfl, trivial⟩

/-- In a document every end tag ends an element, and each event is that of its token. -/
theorem Reads.opened_and_isOf
    {opened : List OpenElement} {tokens : List Token} {events : List Event}
    (h : Reads opened tokens events) :
  (∃ depth, Piece.openAfter opened.length (events.flatMap Event.pieces) = some depth)
    ∧ List.Forall₂ Event.IsOf events tokens
  := by
  induction h with
  | nil opened => exact ⟨⟨opened.length, rfl⟩, .nil⟩
  | cons read rest ih =>
    obtain ⟨⟨depth, later⟩, each⟩ := ih
    obtain ⟨first, is_of⟩ := openAfter_of_readEvent read
    constructor
    · use depth
      rw [List.flatMap_cons, Piece.openAfter_append, first]
      apply later
    · apply List.Forall₂.cons is_of each

/-- A document whose events are all delivered and whose references all stand for characters is
read exactly when one element begins outside all others and every element ends.  The tree then has
the pieces of the events, front to back, without the texts outside the root and with one text for
each run of texts, so that no two texts touch anywhere in it.  Otherwise the document is malformed:
it has no root, a second one, or an element without an end. -/
theorem readDocument_pieces
    {bytes : Octets} {events : List Event} (delivered : documentEvents bytes = events.map some)
    (resolves : Resolves events) :
  (∃ found, tokens (dropMark (decode bytes)) = found.map some
      ∧ List.Forall₂ Event.IsOf events found)
    ∧ ((∃ root, readDocument bytes = .ok root)
      ↔ Piece.topCount 0 (events.flatMap Event.pieces) = 1
        ∧ Piece.openAfter 0 (events.flatMap Event.pieces) = some 0)
    ∧ (∀ root, readDocument bytes = .ok root →
      root.pieces = Piece.joinTexts (Piece.withinRoot 0 (events.flatMap Event.pieces))
        ∧ root.content.Apart)
    ∧ ((∀ root, readDocument bytes ≠ .ok root) →
      ∃ defect, readDocument bytes = .error (.malformed defect)
        ∧ (defect = .noRoot ∨ defect = .secondRoot ∨ defect = .unexpectedEnd))
  := by
  obtain ⟨found, tokens_eq, reads⟩ := reads_of_readEvents delivered
  obtain ⟨⟨depth, opened⟩, each⟩ := reads.opened_and_isOf
  have at_start : Piece.openAfter 0 (events.flatMap Event.pieces) = some depth := opened
  use ⟨found, tokens_eq, each⟩
  rw [readDocument, delivered, at_start]
  rcases buildTree_cases resolves at_start with
    ⟨root, built, one, rfl, pieces⟩ | ⟨defect, fails, kind, not_one⟩
  · have apart : root.content.Apart := by
      apply Element.apart_of_pieces
      rw [pieces]
      apply Piece.apart_joinTexts
    rw [built]
    refine ⟨⟨fun _ => ⟨one, rfl⟩, fun _ => ⟨root, rfl⟩⟩, ?_, fun none => absurd rfl (none root)⟩
    rintro root' ⟨⟩
    exact ⟨pieces, apart⟩
  · rw [fails]
    refine ⟨⟨?_, ?_⟩, ?_, fun _ => ⟨defect, rfl, kind⟩⟩
    · rintro ⟨root, ⟨⟩⟩
    · rintro ⟨one, ⟨⟩⟩
      apply absurd ⟨one, rfl⟩ not_one
    · rintro root ⟨⟩

/-- A note whose one text has a comment and a reference within it. -/
def note : Octets :=
  octets "<?xml version=\"1.0\"?><note lang=\"en\">x<!-- y -->&amp;<br/></note>\n"

/-- The events of the note. -/
def noteEvents : List Event :=
  [.passed, .start ⟨"note", none, "note", [⟨"lang", none, "lang", "en"⟩]⟩, .text "x", .passed,
    .reference "amp".toList, .empty ⟨"br", none, "br", []⟩, .stop, .text "\n"]

theorem readDocument_pieces_note :
  documentEvents note = noteEvents.map some ∧ Resolves noteEvents
    ∧ ∃ root, readDocument note = .ok root
      ∧ root.pieces = [.start ⟨"note", none, "note", [⟨"lang", none, "lang", "en"⟩]⟩, .text "x&",
        .start ⟨"br", none, "br", []⟩, .stop, .stop]
  := by
  have delivered : documentEvents note = noteEvents.map some := by decide +kernel
  have resolves : Resolves noteEvents := by
    intro name among
    obtain rfl : name = "amp".toList := by simpa [noteEvents] using among
    exact ⟨'&', rfl⟩
  obtain ⟨-, succeeds, pieces, -⟩ := readDocument_pieces delivered resolves
  obtain ⟨root, read⟩ := succeeds.mpr (by decide)
  use delivered, resolves, root, read
  rw [(pieces root read).1]
  decide

end OlapClient.Markup
