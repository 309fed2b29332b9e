import Mathlib.Tactic.Common
import OlapClient.Proofs.Cube.Collecting
import OlapClient.Proofs.Handling.Callbacks
import OlapClient.Proofs.Handling.Plan
import OlapClient.Proofs.Results

/-!
# The calls of a read of a multidimensional result

The axes and the cells of a result are its `items`.  A handler is promised all axes and then all
cells, each kind in document order, between the announcement and the end.  A read delivers the items
as they come in the document.  `axes_before_cells_iff` says that this keeps the promise for every
handler exactly when the result has no cell before an axis, and `cell_before_axis` has a result that
breaks it.
-/

namespace OlapClient.Cube

open OlapClient.Markup
open OlapClient.Number
open OlapClient.Protocol

variable {σ : Type}

namespace CellHandler

/-- The action of a handler that a call calls. -/
def call (handler : CellHandler σ) : CellEvent → Handling σ Unit
  | .info info => handler.onInfo info
  | .axis axis => handler.onAxis axis
  | .cell ordinal cell => handler.onCell ordinal cell
  | .finish => handler.onFinish

/-- A handler that writes down its calls, earliest first, with how each ended. -/
def logging (handler : CellHandler σ) : CellHandler (σ × List (Called CellEvent)) where
  onInfo info := .logging (.info info) (handler.onInfo info)
  onAxis axis := .logging (.axis axis) (handler.onAxis axis)
  onCell ordinal cell := .logging (.cell ordinal cell) (handler.onCell ordinal cell)
  onFinish := .logging .finish handler.onFinish

theorem call_logging (handler : CellHandler σ) :
  handler.logging.call = fun event => .logging event (handler.call event)
  := by
  funext event
  cases event <;> rfl

/-- The calls that a read of a payload makes of a handler that begins in a state. -/
def calls (handler : CellHandler σ) (payload : Element) (s : σ) : List (Called CellEvent) :=
  (ending (readCellSet handler.logging payload) (s, [])).2.2

end CellHandler

/-! ### The items of a result -/

/-- An axis or a cell, as it stands in a result. -/
inductive Item where
  | axis (e : Element)
  | cell (e : Element)
  deriving DecidableEq, Repr

namespace Item

/-- The item is an axis. -/
def isAxis : Item → Bool
  | axis _ => true
  | cell _ => false

@[simp]
theorem isAxis_axis (e : Element) :
  (axis e).isAxis = true
  := rfl

@[simp]
theorem isAxis_cell (e : Element) :
  (cell e).isAxis = false
  := rfl

/-- The call that is due for an item, or the failure to read it. -/
def due : Item → Except Failure CellEvent
  | axis e => (readAxis e).map .axis
  | cell e => (readOrdinal e).map (.cell · e)

end Item

/-- The items of one part of a result, in document order. -/
def itemsOf (part : Element) : List Item :=
  if part.is datasetNs "Axes" then (part.findChildren datasetNs "Axis").map .axis
  else if part.is datasetNs "CellData" then (part.findChildren datasetNs "Cell").map .cell
  else []

/-- The items of a result, in document order. -/
def items (root : Element) : List Item :=
  root.children.flatMap itemsOf

/-- The calls that are due for a result when its items are delivered in a given order. -/
def schedule (root : Element) (items : List Item) : List (Except Failure CellEvent) :=
  .ok (.info (readInfo root)) :: items.map Item.due ++ [.ok .finish]

/-- All axes among items, then all cells, each kind in its order. -/
def axesFirst (items : List Item) : List Item :=
  items.filter (·.isAxis) ++ items.filter (!·.isAxis)

/-- No cell of a result stands before an axis. -/
def HasAxesFirst (root : Element) : Prop :=
  (items root).Pairwise fun earlier later => later.isAxis → earlier.isAxis

instance (root : Element) : Decidable (HasAxesFirst root) :=
  inferInstanceAs (Decidable (List.Pairwise _ _))

theorem axesFirst_eq_self {items : List Item}
    (h : items.Pairwise fun earlier later => later.isAxis → earlier.isAxis) :
  axesFirst items = items
  := by
  induction items with
  | nil => rfl
  | cons item items ih =>
    rw [List.pairwise_cons] at h
    have rest : items.filter (·.isAxis) ++ items.filter (!·.isAxis) = items := ih h.2
    cases item with
    | axis e =>
      rw [axesFirst, List.filter_cons_of_pos rfl, List.filter_cons_of_neg (by simp),
        List.cons_append, rest]
    | cell e =>
      -- after a cell there are cells only
      have cells : ∀ later ∈ items, later.isAxis = false := by
        intro later mem
        rw [Bool.eq_false_iff]
        intro axis
        cases h.1 later mem axis
      have no_axis : items.filter (·.isAxis) = [] := by
        rw [List.filter_eq_nil_iff]
        intro later mem
        simp [cells later mem]
      rw [no_axis, List.nil_append] at rest
      simp [axesFirst, no_axis, rest]

/-! ### Carrying a schedule out -/

theorem passAxis_eq_attempt (handler : CellHandler σ) (e : Element) :
  passAxis handler e = attempt handler.call (Item.axis e).due
  := by
  rw [passAxis, attempt, Item.due]
  cases readAxis e <;> rfl

theorem passCell_eq_attempt (handler : CellHandler σ) (e : Element) :
  passCell handler e = attempt handler.call (Item.cell e).due
  := by
  rw [passCell, attempt, Item.due]
  cases readOrdinal e <;> rfl

theorem passPart_eq_carryOut (handler : CellHandler σ) (part : Element) :
  passPart handler part = carryOut handler.call ((itemsOf part).map Item.due)
  := by
  unfold passPart itemsOf
  split
  · rw [List.map_map]
    apply carryOut_map handler.call _ (passAxis_eq_attempt handler)
  · split
    · rw [List.map_map]
      apply carryOut_map handler.call _ (passCell_eq_attempt handler)
    · rfl

theorem readRoot_eq_carryOut (handler : CellHandler σ) (root : Element) :
  readRoot handler root = carryOut handler.call (schedule root (items root))
  := by
  have parts : root.children.forM (passPart handler)
      = carryOut handler.call ((items root).map Item.due) := by
    rw [items, List.map_flatMap]
    apply carryOut_flatMap handler.call _ (passPart_eq_carryOut handler)
  rw [schedule, carryOut_enclosed, ← parts]
  rfl

/-- The log of calls changes nothing else of a read. -/
theorem follows_readCellSet_logging (handler : CellHandler σ) (payload : Element) :
  Follows Prod.fst (readCellSet handler.logging payload) (readCellSet handler payload)
  := by
  apply follows_readCellSet_of_follows
  · intro info
    apply Follows.logging
  · intro axis
    apply Follows.logging
  · intro ordinal cell
    apply Follows.logging
  · apply Follows.logging

/-- A payload without a result is refused before any call. -/
theorem CellHandler.calls_of_none
    {payload : Element} (lacks : payload.findChild? datasetNs "root" = none)
    (handler : CellHandler σ) (s : σ) :
  handler.calls payload s = []
  := by
  rw [calls, readCellSet, lacks]
  rfl

/-- The calls of a read of a result deliver its items in document order. -/
theorem fulfils_schedule
    {payload root : Element} (found : payload.findChild? datasetNs "root" = some root)
    (handler : CellHandler σ) (s : σ) :
  Fulfils (schedule root (items root)) (handler.calls payload s)
    (ending (readCellSet handler payload) s).1
  := by
  simp only [CellHandler.calls, readCellSet, found, readRoot_eq_carryOut, CellHandler.call_logging]
  apply fulfils_logged

/-! ### Failures of a read -/

theorem isMalformed_of_readNumber {k : IntKind} {text : String} {failure : Failure}
    (h : readNumber k text = .error failure) :
  IsMalformed failure
  := by
  rw [readNumber] at h
  cases read : readBounded 10 k text.toList with
  | ok n =>
    rw [read] at h
    cases h
  | error fault =>
    rw [read] at h
    cases h
    exact ⟨_, rfl⟩

theorem isMalformed_of_add {m : Member} {property : Element} {failure : Failure}
    (h : m.add property = .error failure) :
  IsMalformed failure
  := by
  have number {k : IntKind} {text : String} {f : Bounded k → Member}
      (h : (readNumber k text).map f = .error failure) : IsMalformed failure := by
    cases read : readNumber k text with
    | ok n =>
      rw [read] at h
      cases h
    | error failure' =>
      rw [read] at h
      cases h
      apply isMalformed_of_readNumber read
  simp only [Member.add] at h
  split at h
  · cases h
  · cases h
  · cases h
  · apply number h
  · apply number h
  · cases h

theorem isMalformed_of_readTuple {e : Element} {failure : Failure}
    (h : readTuple e = .error failure) :
  IsMalformed failure
  := by
  cases members : (e.findChildren datasetNs "Member").mapM readMember with
  | ok ms =>
    rw [readTuple, members] at h
    cases h
  | error failure' =>
    rw [readTuple, members] at h
    cases h
    obtain ⟨member, -, failed⟩ := exists_of_mapM_eq_error members
    obtain ⟨m, property, -, failed⟩ := exists_of_foldlM_eq_error failed
    apply isMalformed_of_add failed

theorem isMalformed_of_readAxis {e : Element} {failure : Failure}
    (h : readAxis e = .error failure) :
  IsMalformed failure
  := by
  cases tuples : (tupleElements e).mapM readTuple with
  | ok ts =>
    rw [readAxis, tuples] at h
    cases h
  | error failure' =>
    rw [readAxis, tuples] at h
    cases h
    obtain ⟨tuple, -, failed⟩ := exists_of_mapM_eq_error tuples
    apply isMalformed_of_readTuple failed

theorem isMalformed_of_readOrdinal {e : Element} {failure : Failure}
    (h : readOrdinal e = .error failure) :
  IsMalformed failure
  := by
  cases found : e.valueOf? "CellOrdinal" with
  | none =>
    rw [readOrdinal, found] at h
    cases h
    exact ⟨_, rfl⟩
  | some text =>
    simp only [readOrdinal, found] at h
    cases read : readNumber .nat64 (Text.trimmed text) with
    | ok n =>
      rw [read] at h
      cases h
    | error failure' =>
      rw [read] at h
      cases h
      apply isMalformed_of_readNumber read

theorem isMalformed_of_due {item : Item} {failure : Failure} (h : item.due = .error failure) :
  IsMalformed failure
  := by
  cases item with
  | axis e =>
    cases read : readAxis e with
    | ok axis =>
      rw [Item.due, read] at h
      cases h
    | error failure' =>
      rw [Item.due, read] at h
      cases h
      apply isMalformed_of_readAxis read
  | cell e =>
    cases read : readOrdinal e with
    | ok ordinal =>
      rw [Item.due, read] at h
      cases h
    | error failure' =>
      rw [Item.due, read] at h
      cases h
      apply isMalformed_of_readOrdinal read

/-- A result has nothing that cannot be read but what is malformed. -/
theorem isMalformed_of_mem_schedule
    {root : Element} {items : List Item} {failure : Failure}
    (mem : .error failure ∈ schedule root items) :
  IsMalformed failure
  := by
  have due : .error failure ∈ items.map Item.due := by simpa [schedule] using mem
  obtain ⟨item, -, fails⟩ := List.mem_map.mp due
  apply isMalformed_of_due fails

/-- A read of a multidimensional result fails with what does not call the payload malformed exactly
if one of its calls does. -/
theorem ending_readCellSet_eq_error_iff
    (handler : CellHandler σ) (payload : Element) (s : σ) {failure : Failure}
    (other : ¬ IsMalformed failure) :
  (ending (readCellSet handler payload) s).1 = .error failure
    ↔ ∃ made ∈ handler.calls payload s, made.result = .error failure
  := by
  cases found : payload.findChild? datasetNs "root" with
  | none =>
    have refused : (ending (readCellSet handler payload) s).1 = .error (.malformed .noDatasetRoot) := by
      rw [readCellSet, found]
      rfl
    rw [refused, handler.calls_of_none found]
    constructor
    · rintro ⟨⟩
      apply absurd ⟨_, rfl⟩ other
    · rintro ⟨made, mem, -⟩
      cases mem
  | some root =>
    apply (fulfils_schedule found handler s).eq_error_iff
    intro mem
    apply other (isMalformed_of_mem_schedule mem)

/-- A call of a read ends as the action of the handler can. -/
theorem possible_of_mem_calls
    {handler : CellHandler σ} {payload : Element} {s : σ} {made : Called CellEvent}
    (mem : made ∈ handler.calls payload s) :
  made.Possible handler.call
  := by
  cases found : payload.findChild? datasetNs "root" with
  | none =>
    rw [handler.calls_of_none found] at mem
    cases mem
  | some root =>
    simp only [CellHandler.calls, readCellSet, found, readRoot_eq_carryOut,
      CellHandler.call_logging] at mem
    apply possible_of_mem_logged mem

/-! ### The order of the calls -/

namespace CellEvent

/-- An axis is delivered. -/
def isAxis : CellEvent → Bool
  | axis _ => true
  | _ => false

/-- A cell is delivered. -/
def isCell : CellEvent → Bool
  | cell _ _ => true
  | _ => false

end CellEvent

/-- Of two calls that are due, the one that comes first is not a cell where the other one is an
axis. -/
def Ordered (earlier later : Except Failure CellEvent) : Prop :=
  ∀ event event', earlier = .ok event → later = .ok event' → event'.isAxis →
    event.isCell = false

/-- No cell is delivered before an axis. -/
def CellsLast (events : List CellEvent) : Prop :=
  events.Pairwise fun earlier later => later.isAxis → earlier.isCell = false

theorem cellsLast_iff (calls : List (Called CellEvent)) :
  CellsLast (calls.map Called.event) ↔ (calls.map Called.due).Pairwise Ordered
  := by
  simp [CellsLast, List.pairwise_map, Ordered, Called.due]

/-- The call that is due for an item delivers what is read from its element. -/
theorem Item.due_eq_ok {item : Item} {event : CellEvent} (h : item.due = .ok event) :
  (∃ e axis, item = .axis e ∧ readAxis e = .ok axis ∧ event = .axis axis)
    ∨ ∃ e ordinal, item = .cell e ∧ readOrdinal e = .ok ordinal ∧ event = .cell ordinal e
  := by
  cases item with
  | axis e =>
    cases read : readAxis e with
    | error failure =>
      rw [due, read] at h
      cases h
    | ok axis =>
      rw [due, read] at h
      cases h
      exact .inl ⟨e, axis, rfl, read, rfl⟩
  | cell e =>
    cases read : readOrdinal e with
    | error failure =>
      rw [due, read] at h
      cases h
    | ok ordinal =>
      rw [due, read] at h
      cases h
      exact .inr ⟨e, ordinal, rfl, read, rfl⟩

/-- The call that is due for an item delivers an axis for an axis and a cell for a cell. -/
theorem Item.kind_of_due {item : Item} {event : CellEvent} (h : item.due = .ok event) :
  event.isAxis = item.isAxis ∧ event.isCell = !item.isAxis
  := by
  rcases Item.due_eq_ok h with ⟨e, axis, rfl, -, rfl⟩ | ⟨e, ordinal, rfl, -, rfl⟩
  · exact ⟨rfl, rfl⟩
  · exact ⟨rfl, rfl⟩

theorem ordered_due {item item' : Item} (h : item'.isAxis → item.isAxis) :
  Ordered item.due item'.due
  := by
  intro event event' read read' axis
  rw [(Item.kind_of_due read').1] at axis
  rw [(Item.kind_of_due read).2, h axis]
  rfl

theorem pairwise_schedule {root : Element} (h : HasAxesFirst root) :
  (schedule root (items root)).Pairwise Ordered
  := by
  have due : ((items root).map Item.due).Pairwise Ordered := by
    rw [List.pairwise_map]
    apply h.imp ordered_due
  have first (due : Except Failure CellEvent) : Ordered (.ok (.info (readInfo root))) due := by
    intro event event' announced _ _
    cases announced
    rfl
  have last (due : Except Failure CellEvent) : Ordered due (.ok .finish) := by
    intro event event' _ finished axis
    cases finished
    cases axis
  rw [schedule, List.cons_append, List.pairwise_cons, List.pairwise_append]
  refine ⟨fun due _ => first due, due, List.pairwise_singleton _ _, ?_⟩
  intro due _ finish mem
  rw [List.mem_singleton.mp mem]
  apply last

/-- Where every part can be read, calls in order come from items in order. -/
theorem hasAxesFirst_of_pairwise
    {root : Element} (readable : Readable (schedule root (items root)))
    (h : (schedule root (items root)).Pairwise Ordered) :
  HasAxesFirst root
  := by
  have inner : ((items root).map Item.due).Sublist (schedule root (items root)) := by
    apply (List.sublist_append_left _ _).trans
    apply List.Sublist.append_right (List.sublist_cons_self _ _)
  have due := h.sublist inner
  rw [List.pairwise_map] at due
  apply due.imp_of_mem
  intro item item' mem mem' ordered axis
  obtain ⟨event, read⟩ := readable item.due (inner.subset (List.mem_map_of_mem mem))
  obtain ⟨event', read'⟩ := readable item'.due (inner.subset (List.mem_map_of_mem mem'))
  rw [← (Item.kind_of_due read').1] at axis
  have not_cell := ordered event event' read read' axis
  rw [(Item.kind_of_due read).2] at not_cell
  simpa using not_cell

/-- What a handler is promised of its calls. -/
structure Promised (root : Element) (calls : List (Called CellEvent)) : Prop where
  /-- The calls are the first ones of: the announcement, all axes in document order, all cells in
  document order, the end. -/
  scheduled : calls.map Called.due <+: schedule root (axesFirst (items root))
  cellsLast : CellsLast (calls.map Called.event)

/-- A handler that takes all it is given. -/
def accepting : CellHandler Unit where
  onInfo _ := pure ()
  onAxis _ := pure ()
  onCell _ _ := pure ()
  onFinish := pure ()

/-- A handler that takes all it is given gets every call of a result that can be read. -/
theorem calls_accepting
    {payload root : Element} (found : payload.findChild? datasetNs "root" = some root)
    (readable : Readable (schedule root (items root))) :
  (accepting.calls payload ()).map Called.due = schedule root (items root)
  := by
  apply (fulfils_schedule found accepting ()).complete _ readable
  intro made mem
  obtain ⟨s, ended⟩ := possible_of_mem_calls mem
  rw [← ended]
  cases made.event <;> rfl

theorem promised_of_hasAxesFirst
    {payload root : Element} (found : payload.findChild? datasetNs "root" = some root)
    (h : HasAxesFirst root) (handler : CellHandler σ) (s : σ) :
  Promised root (handler.calls payload s)
  := by
  have fulfils := fulfils_schedule found handler s
  constructor
  · rw [axesFirst_eq_self h]
    apply fulfils.isPrefix
  · rw [cellsLast_iff]
    apply (pairwise_schedule h).sublist fulfils.isPrefix.sublist

theorem hasAxesFirst_of_cellsLast
    {payload root : Element} (found : payload.findChild? datasetNs "root" = some root)
    (readable : Readable (schedule root (items root)))
    (h : CellsLast ((accepting.calls payload ()).map Called.event)) :
  HasAxesFirst root
  := by
  rw [cellsLast_iff, calls_accepting found readable] at h
  apply hasAxesFirst_of_pairwise readable h

/-- A read delivers the items of a result as they come in the document, up to the first call that
fails or the first item that cannot be read.  Where no cell stands before an axis, every handler is
delivered all axes and then all cells.  Where every item can be read, this is the only case in which
every handler is. -/
theorem axes_before_cells_iff
    {payload root : Element} (found : payload.findChild? datasetNs "root" = some root) :
  (∀ {σ : Type} (handler : CellHandler σ) (s : σ),
      Follows Prod.fst (readCellSet handler.logging payload) (readCellSet handler payload)
      ∧ Fulfils (schedule root (items root)) (handler.calls payload s)
        (ending (readCellSet handler payload) s).1
      ∧ (HasAxesFirst root → Promised root (handler.calls payload s)))
    ∧ (Readable (schedule root (items root)) →
      ((∀ {σ : Type} (handler : CellHandler σ) (s : σ), Promised root (handler.calls payload s))
        ↔ HasAxesFirst root))
  := by
  constructor
  · intro σ handler s
    use follows_readCellSet_logging handler payload, fulfils_schedule found handler s
    intro h
    apply promised_of_hasAxesFirst found h
  · intro readable
    constructor
    · intro promised
      apply hasAxesFirst_of_cellsLast found readable (promised accepting ()).cellsLast
    · intro h σ handler s
      apply promised_of_hasAxesFirst found h

/-- An element with one axis. -/
def axesPart : Element :=
  part "Axes" [] [part "Axis" [⟨"name", none, "name", "Axis0"⟩]
    [part "Tuples" [] [part "Tuple" [] []]]]

/-- A cell without a value. -/
def firstCell : Element :=
  part "Cell" [⟨"CellOrdinal", none, "CellOrdinal", "0"⟩] []

/-- An element with one cell. -/
def cellsPart : Element :=
  part "CellData" [] [firstCell]

/-- The payload with a result of given parts. -/
def payloadOf (parts : List Element) : Element :=
  part "return" [] [part "root" [] parts]

theorem readable_axesPart_cellsPart :
  Readable (schedule (part "root" [] [axesPart, cellsPart])
    (items (part "root" [] [axesPart, cellsPart])))
  := readable_map_ok [CellEvent.info .empty, .axis onlyAxis, .cell 0 firstCell, .finish]

theorem axes_before_cells_iff_ordered :
  (payloadOf [axesPart, cellsPart]).findChild? datasetNs "root"
      = some (part "root" [] [axesPart, cellsPart])
    ∧ HasAxesFirst (part "root" [] [axesPart, cellsPart])
    ∧ ∀ {σ : Type} (handler : CellHandler σ) (s : σ),
      Promised (part "root" [] [axesPart, cellsPart])
        (handler.calls (payloadOf [axesPart, cellsPart]) s)
  := by
  have found : (payloadOf [axesPart, cellsPart]).findChild? datasetNs "root"
      = some (part "root" [] [axesPart, cellsPart]) := rfl
  have axesFirst : HasAxesFirst (part "root" [] [axesPart, cellsPart]) := by decide
  obtain ⟨-, iff⟩ := axes_before_cells_iff found
  exact ⟨found, axesFirst, (iff readable_axesPart_cellsPart).mpr axesFirst⟩

theorem readable_cellsPart_axesPart :
  Readable (schedule (part "root" [] [cellsPart, axesPart])
    (items (part "root" [] [cellsPart, axesPart])))
  := readable_map_ok [CellEvent.info .empty, .cell 0 firstCell, .axis onlyAxis, .finish]

/-- A cell is delivered before an axis where it stands before it. -/
theorem cell_before_axis :
  ¬ ∀ (payload root : Element), payload.findChild? datasetNs "root" = some root →
    ∀ {σ : Type} (handler : CellHandler σ) (s : σ),
      CellsLast ((handler.calls payload s).map Called.event)
  := by
  intro last
  have found : (payloadOf [cellsPart, axesPart]).findChild? datasetNs "root"
      = some (part "root" [] [cellsPart, axesPart]) := rfl
  have axesFirst := hasAxesFirst_of_cellsLast found readable_cellsPart_axesPart
    (last _ _ found accepting ())
  apply absurd axesFirst
  decide

end OlapClient.Cube
