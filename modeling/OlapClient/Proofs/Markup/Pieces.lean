import Mathlib.Data.List.Chain
import Mathlib.Tactic.Common
import OlapClient.Proofs.Markup.Plain

/-!
# Content from front to back

The pieces of content are its start tags, texts and end tags in the order in which they stand in
a document.  `joinTexts` makes one text of texts that touch, and `withinRoot` leaves out the texts
outside all elements.  Content whose pieces have no texts that touch has none anywhere in its tree.
-/

namespace OlapClient.Markup

/-- A piece of a document. -/
inductive Piece where
  | start (tag : Tag)
  | text (s : String)
  | stop
  deriving DecidableEq, Repr

/-- The pieces of content, in the order in which they are written. -/
def Content.pieces : Content → List Piece
  | nil => []
  | text s rest => .text s :: rest.pieces
  | element tag inner rest => .start tag :: (inner.pieces ++ .stop :: rest.pieces)

/-- The pieces of an element: its start tag, those of its content and its end tag. -/
def Element.pieces (e : Element) : List Piece :=
  .start e.tag :: (e.content.pieces ++ [.stop])

/-- The pieces of a child. -/
def Node.pieces : Node → List Piece
  | .text s => [.text s]
  | .element e => e.pieces

theorem Content.pieces_ofNodes (l : List Node) :
  (ofNodes l).pieces = l.flatMap Node.pieces
  := by
  induction l with
  | nil => rfl
  | cons n l ih => cases n <;> simp [ofNodes, pieces, Node.pieces, Element.pieces, ih]

namespace Piece

/-- A piece is a text. -/
def isText : Piece → Bool
  | text _ => true
  | _ => false

/-! ### Depth -/

/-- The number of elements that are open after pieces, given the number before them; none where
an end tag ends nothing. -/
def openAfter (depth : Nat) : List Piece → Option Nat
  | [] => some depth
  | start _ :: rest => openAfter (depth + 1) rest
  | text _ :: rest => openAfter depth rest
  | stop :: rest =>
    match depth with
    | 0 => none
    | depth + 1 => openAfter depth rest

/-- The number of elements that begin outside all elements. -/
def topCount (depth : Nat) : List Piece → Nat
  | [] => 0
  | start _ :: rest => (if depth = 0 then 1 else 0) + topCount (depth + 1) rest
  | text _ :: rest => topCount depth rest
  | stop :: rest => topCount (depth - 1) rest

/-- Pieces without the texts that stand outside all elements. -/
def withinRoot (depth : Nat) : List Piece → List Piece
  | [] => []
  | start tag :: rest => start tag :: withinRoot (depth + 1) rest
  | text s :: rest => if depth = 0 then withinRoot depth rest else text s :: withinRoot depth rest
  | stop :: rest => stop :: withinRoot (depth - 1) rest

/-- The depth after pieces is that after the first one and then the others. -/
theorem openAfter_cons (depth : Nat) (p : Piece) (rest : List Piece) :
  openAfter depth (p :: rest) = (openAfter depth [p]).bind fun depth => openAfter depth rest
  := by
  cases p with
  | start tag => rfl
  | text s => rfl
  | stop => cases depth <;> rfl

theorem openAfter_append (depth : Nat) (l m : List Piece) :
  openAfter depth (l ++ m) = (openAfter depth l).bind fun depth => openAfter depth m
  := by
  induction l generalizing depth with
  | nil => rfl
  | cons p l ih =>
    rw [List.cons_append, openAfter_cons, openAfter_cons depth p l, Option.bind_assoc]
    simp only [ih]

variable {depth depth' : Nat} {p : Piece}

theorem topCount_cons (h : openAfter depth [p] = some depth') (rest : List Piece) :
  topCount depth (p :: rest) = topCount depth [p] + topCount depth' rest
  := by
  cases p with
  | start tag =>
    cases h
    rfl
  | text s =>
    cases h
    simp [topCount]
  | stop =>
    cases depth <;> cases h
    simp [topCount]

theorem withinRoot_cons (h : openAfter depth [p] = some depth') (rest : List Piece) :
  withinRoot depth (p :: rest) = withinRoot depth [p] ++ withinRoot depth' rest
  := by
  cases p with
  | start tag =>
    cases h
    rfl
  | text s =>
    cases h
    rw [withinRoot, withinRoot]
    split <;> rfl
  | stop =>
    cases depth <;> cases h
    rfl

/-! ### Joining texts -/

/-- Puts a text in front of pieces; it joins a text that they begin with. -/
def putText (s : String) : List Piece → List Piece
  | text t :: rest => text (s ++ t) :: rest
  | rest => text s :: rest

/-- Pieces with one text for each run of texts. -/
def joinTexts : List Piece → List Piece
  | [] => []
  | start tag :: rest => start tag :: joinTexts rest
  | text s :: rest => putText s (joinTexts rest)
  | stop :: rest => stop :: joinTexts rest

/-- Two pieces are not both texts. -/
def Separate (p q : Piece) : Prop :=
  ¬ (p.isText ∧ q.isText)

/-- No two texts touch. -/
def Apart (l : List Piece) : Prop :=
  l.IsChain Separate

theorem putText_putText (s t : String) (l : List Piece) :
  putText s (putText t l) = putText (s ++ t) l
  := by
  rcases l with _ | ⟨_ | _ | _, l⟩ <;> simp [putText, String.append_assoc]

/-- Texts that touch may as well be one. -/
theorem joinTexts_text_text (s t : String) (l : List Piece) :
  joinTexts (text s :: text t :: l) = joinTexts (text (s ++ t) :: l)
  := by
  simp [joinTexts, putText_putText]

theorem joinTexts_putText_append (s : String) (l m : List Piece) :
  joinTexts (putText s l ++ m) = putText s (joinTexts (l ++ m))
  := by
  cases l with
  | nil => rfl
  | cons p l =>
    cases p with
    | text t =>
      symm
      apply putText_putText
    | start tag => rfl
    | stop => rfl

/-- Texts that touch may be joined before others follow. -/
theorem joinTexts_joinTexts_append (l m : List Piece) :
  joinTexts (joinTexts l ++ m) = joinTexts (l ++ m)
  := by
  induction l with
  | nil => rfl
  | cons p l ih => cases p <;> simp [joinTexts, joinTexts_putText_append, ih]

/-- What is joined depends on what comes after only through what that is joined to. -/
theorem joinTexts_append_congr
    (l : List Piece) {m m' : List Piece} (h : joinTexts m = joinTexts m') :
  joinTexts (l ++ m) = joinTexts (l ++ m')
  := by
  induction l with
  | nil => apply h
  | cons p l ih => cases p <;> simp [joinTexts, ih]

theorem joinTexts_of_apart {l : List Piece} (h : Apart l) :
  joinTexts l = l
  := by
  induction l with
  | nil => rfl
  | cons p l ih =>
    have rest := ih h.tail
    cases p with
    | start tag => rw [joinTexts, rest]
    | stop => rw [joinTexts, rest]
    | text s =>
      rw [joinTexts, rest]
      cases l with
      | nil => rfl
      | cons q l =>
        have separate := (List.isChain_cons_cons.mp h).1
        cases q <;> simp_all [putText, Separate, isText]

theorem apart_putText {s : String} {l : List Piece} (h : Apart l) :
  Apart (putText s l)
  := by
  cases l with
  | nil => apply List.isChain_singleton
  | cons p l =>
    cases p with
    | text t =>
      obtain ⟨separate, apart⟩ := List.isChain_cons.mp h
      have joined : Apart (text (s ++ t) :: l) := List.isChain_cons.mpr ⟨separate, apart⟩
      apply joined
    | start tag => apply List.isChain_cons_cons.mpr ⟨by simp [Separate, isText], h⟩
    | stop => apply List.isChain_cons_cons.mpr ⟨by simp [Separate, isText], h⟩

theorem apart_joinTexts (l : List Piece) :
  Apart (joinTexts l)
  := by
  induction l with
  | nil => apply List.isChain_nil
  | cons p l ih =>
    cases p with
    | text s => apply apart_putText ih
    | start tag => apply List.isChain_cons.mpr ⟨by simp [Separate, isText], ih⟩
    | stop => apply List.isChain_cons.mpr ⟨by simp [Separate, isText], ih⟩

/-- A piece that is no text stands apart from what comes before it. -/
theorem joinTexts_append_of_not_isText
    {l : List Piece} (h : Apart l) {p : Piece} (hp : p.isText = false) :
  joinTexts (l ++ [p]) = l ++ [p]
  := by
  apply joinTexts_of_apart
  apply List.isChain_append.mpr
  use h, List.isChain_singleton _
  intro q _ r hr
  obtain rfl : r = p := by simpa [eq_comm] using hr
  simp [Separate, hp]

/-- A text stands apart from a piece before it that is none. -/
theorem joinTexts_append_text_of_not_isText
    {l : List Piece} {p : Piece} (h : Apart (l ++ [p])) (hp : p.isText = false) (s : String) :
  joinTexts (l ++ [p] ++ [text s]) = l ++ [p] ++ [text s]
  := by
  rw [List.append_assoc]
  apply joinTexts_of_apart
  apply List.isChain_append_cons_cons.mpr
  use h, by simp [Separate, hp], List.isChain_singleton _

/-- A text joins the text before it. -/
theorem joinTexts_append_text_text
    {l : List Piece} {s : String} (h : Apart (l ++ [text s])) (t : String) :
  joinTexts (l ++ [text s] ++ [text t]) = l ++ [text (s ++ t)]
  := by
  have apart : Apart (l ++ [text (s ++ t)]) := by
    obtain ⟨front, -, separate⟩ := List.isChain_append.mp h
    apply List.isChain_append.mpr
    use front, List.isChain_singleton _
    intro p hp q hq
    obtain rfl : q = text (s ++ t) := by simpa [eq_comm] using hq
    apply separate p hp (text s) (by simp)
  rw [List.append_assoc, ← joinTexts_of_apart apart]
  apply joinTexts_append_congr
  apply joinTexts_text_text

end Piece

/-! ### Content without texts that touch -/

/-- No two texts touch, at any depth. -/
def Content.Apart : Content → Prop
  | nil => True
  | text _ rest => rest.beginsWithText = false ∧ rest.Apart
  | element _ inner rest => inner.Apart ∧ rest.Apart

theorem Content.apart_of_pieces {c : Content} (h : Piece.Apart c.pieces) :
  c.Apart
  := by
  induction c with
  | nil => trivial
  | text s rest ih =>
    constructor
    · cases rest with
      | nil => rfl
      | element => rfl
      | text t rest =>
        have separate := (List.isChain_cons_cons.mp h).1
        simp [Piece.Separate, Piece.isText] at separate
    · apply ih h.tail
  | element tag inner rest inner_ih rest_ih =>
    obtain ⟨inner_apart, rest_apart, -⟩ := List.isChain_append.mp h.tail
    constructor
    · apply inner_ih inner_apart
    · apply rest_ih rest_apart.tail

theorem Element.apart_of_pieces {e : Element} (h : Piece.Apart e.pieces) :
  e.content.Apart
  := by
  apply Content.apart_of_pieces
  apply (List.isChain_append.mp h.tail).1

theorem Content.Apart.of_mem_descendants
    {c : Content} (h : c.Apart) {e : Element} (he : e ∈ c.descendants) :
  e.content.Apart
  := by
  induction c with
  | nil => simp [descendants] at he
  | text s rest ih => exact ih h.2 he
  | element tag inner rest inner_ih rest_ih =>
    simp only [descendants, List.mem_cons, List.mem_append] at he
    rcases he with rfl | he | he
    · apply h.1
    · apply inner_ih h.1 he
    · apply rest_ih h.2 he

end OlapClient.Markup
