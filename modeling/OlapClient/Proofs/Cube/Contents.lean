import Mathlib.Data.List.Forall2
import Mathlib.Tactic.Common
import OlapClient.Proofs.Cube.Delivery
import OlapClient.Proofs.Number.Grammar
import OlapClient.Proofs.Results

/-!
# The contents of a result

The axes of a result stand in its parts of one kind and the cells in those of another, and there may
be any number of either, in any order.  `outcome_collecting_iff` says that a result is read into an
empty cell set when all its axes and all its cells can be read, and that the cell set then holds the
axes one after the other and each cell in place of the ones before it with the same number.
-/

namespace OlapClient.Cube

open OlapClient.Markup
open OlapClient.Number
open OlapClient.Protocol
open OlapClient.Text

/-! ### Axes and cells of a result -/

/-- The axes of a result, in document order over all its parts. -/
def axisElements (root : Element) : List Element :=
  (root.findChildren datasetNs "Axes").flatMap (·.findChildren datasetNs "Axis")

/-- The cells of a result, in document order over all its parts. -/
def cellElements (root : Element) : List Element :=
  (root.findChildren datasetNs "CellData").flatMap (·.findChildren datasetNs "Cell")

namespace Item

/-- The element of an axis. -/
def axis? : Item → Option Element
  | axis e => some e
  | cell _ => none

/-- The element of a cell. -/
def cell? : Item → Option Element
  | axis _ => none
  | cell e => some e

end Item

theorem flatMap_filter {α β : Type} (p : α → Bool) (f : α → List β) (l : List α) :
  (l.filter p).flatMap f = l.flatMap fun a => if p a then f a else []
  := by
  induction l with
  | nil => rfl
  | cons a l ih =>
    rw [List.filter_cons, List.flatMap_cons, ← ih]
    split <;> simp [*]

theorem filterMap_axis?_itemsOf (part : Element) :
  (itemsOf part).filterMap Item.axis?
    = if part.is datasetNs "Axes" then part.findChildren datasetNs "Axis" else []
  := by
  rw [itemsOf]
  split
  · rw [List.filterMap_map]
    apply List.filterMap_some
  · split
    · rw [List.filterMap_map]
      apply List.filterMap_eq_nil_iff.mpr
      intro e _
      rfl
    · rfl

theorem filterMap_cell?_itemsOf (part : Element) :
  (itemsOf part).filterMap Item.cell?
    = if part.is datasetNs "CellData" then part.findChildren datasetNs "Cell" else []
  := by
  rw [itemsOf]
  split
  · rename_i axes
    -- a part has one name
    have other : part.is datasetNs "CellData" = false := by
      rw [Element.is, Tag.is, Bool.and_eq_true, beq_iff_eq] at axes
      simp [Element.is, Tag.is, axes.1]
    rw [List.filterMap_map, other]
    apply List.filterMap_eq_nil_iff.mpr
    intro e _
    rfl
  · split
    · rw [List.filterMap_map]
      apply List.filterMap_some
    · rfl

theorem filterMap_axis?_items (root : Element) :
  (items root).filterMap Item.axis? = axisElements root
  := by
  rw [items, List.filterMap_flatMap, axisElements, Element.findChildren, flatMap_filter]
  simp only [filterMap_axis?_itemsOf]

theorem filterMap_cell?_items (root : Element) :
  (items root).filterMap Item.cell? = cellElements root
  := by
  rw [items, List.filterMap_flatMap, cellElements, Element.findChildren, flatMap_filter]
  simp only [filterMap_cell?_itemsOf]

/-! ### Numbers -/

/-- A text is a numeral of an integer of a format, but for blanks at its ends. -/
def Gives (k : IntKind) (text : String) (n : Int) : Prop :=
  DenotesIn k (trim text.toList) n

/-- A cell has the number that its attribute gives. -/
def HasOrdinal (cell : Element) (ordinal : Nat) : Prop :=
  ∃ text, cell.valueOf? "CellOrdinal" = some text ∧ Gives .nat64 text ordinal

theorem readNumber_eq_ok_iff {k : IntKind} {text : String} {n : Bounded k} :
  readNumber k (trimmed text) = .ok n ↔ Gives k text n.val
  := by
  rw [readNumber, mapError_eq_ok_iff, trimmed, String.toList_ofList, readBounded_eq_ok_iff, Gives]

theorem exists_readNumber_iff {k : IntKind} {text : String} :
  (∃ n, readNumber k (trimmed text) = .ok n) ↔ ∃ n, Gives k text n
  := by
  constructor
  · rintro ⟨n, read⟩
    exact ⟨n.val, readNumber_eq_ok_iff.mp read⟩
  · rintro ⟨n, gives⟩
    exact ⟨⟨n, gives.holds⟩, readNumber_eq_ok_iff.mpr gives⟩

theorem readOrdinal_eq_ok_iff {cell : Element} {ordinal : Nat} :
  readOrdinal cell = .ok ordinal ↔ HasOrdinal cell ordinal
  := by
  rw [readOrdinal, HasOrdinal]
  cases cell.valueOf? "CellOrdinal" with
  | none => simp
  | some text =>
    simp only [Option.some.injEq, exists_eq_left']
    constructor
    · intro reads
      obtain ⟨n, read, rfl⟩ := map_eq_ok_iff.mp reads
      have gives := readNumber_eq_ok_iff.mp read
      have nonneg : 0 ≤ n.val := gives.holds.1
      rwa [Int.toNat_of_nonneg nonneg]
    · intro gives
      exact map_eq_ok_iff.mpr ⟨⟨ordinal, gives.holds⟩, readNumber_eq_ok_iff.mpr gives, rfl⟩

instance (cell : Element) (ordinal : Nat) : Decidable (HasOrdinal cell ordinal) :=
  decidable_of_iff _ readOrdinal_eq_ok_iff

/-! ### Collecting -/

namespace CellEvent

/-- The axis that is delivered. -/
def axis? : CellEvent → Option Axis
  | .axis a => some a
  | _ => none

/-- The cell that is delivered, with its number. -/
def cell? : CellEvent → Option (Nat × Element)
  | .cell ordinal e => some (ordinal, e)
  | _ => none

end CellEvent

/-- A cell with its number. -/
def numberedCell (e : Element) : Except Failure (Nat × Element) :=
  (·, e) <$> readOrdinal e

namespace CellSet

/-- The cell set that a call leaves. -/
def after (s : CellSet) : CellEvent → CellSet
  | .info info => { s with info := info }
  | .axis axis => s.addAxis axis
  | .cell ordinal e => s.addCell ordinal e
  | .finish => s

/-- Numbered cells stored one after the other, each in place of any other with its number. -/
def stored (held : Std.ExtTreeMap Nat Element) (cells : List (Nat × Element)) :
    Std.ExtTreeMap Nat Element :=
  cells.foldl (fun held cell => held.insert cell.1 cell.2) held

/-- A cell set with axes and numbered cells added one after the other. -/
def extended (s : CellSet) (axes : List Axis) (cells : List (Nat × Element)) : CellSet where
  info := s.info
  axes := s.axes ++ axes.filter (!·.isSlicer)
  slicer := (axes.filter (·.isSlicer)).getLast?.or s.slicer
  cells := stored s.cells cells

theorem extended_nil (s : CellSet) :
  s.extended [] [] = s
  := by simp [extended, stored]

theorem extended_cons_axis (s : CellSet) (axis : Axis) (axes : List Axis)
    (cells : List (Nat × Element)) :
  s.extended (axis :: axes) cells = (s.addAxis axis).extended axes cells
  := by
  by_cases slicer : axis.isSlicer
  · simp [extended, addAxis, slicer, List.getLast?_cons]
  · simp [extended, addAxis, slicer]

theorem extended_cons_cell (s : CellSet) (axes : List Axis) (cell : Nat × Element)
    (cells : List (Nat × Element)) :
  s.extended axes (cell :: cells) = (s.addCell cell.1 cell.2).extended axes cells
  := rfl

end CellSet

theorem call_collecting (event : CellEvent) (s : CellSet) :
  collecting.call event s = .ok () (s.after event)
  := by cases event <;> rfl

/-- Calls are those that are due for items. -/
def Delivered (items : List Item) (events : List CellEvent) : Prop :=
  List.Forall₂ (fun item event => item.due = .ok event) items events

theorem delivered_iff {items : List Item} {events : List CellEvent} :
  Delivered items events ↔ items.map Item.due = events.map .ok
  := by rw [Delivered, ← List.forall₂_eq_eq_eq, List.forall₂_map_left_iff, List.forall₂_map_right_iff]

/-- The calls that are due for a result deliver all its axes. -/
theorem mapM_readAxis_of_delivered
    {root : Element} {events : List CellEvent} (delivered : Delivered (items root) events) :
  (axisElements root).mapM readAxis = .ok (events.filterMap CellEvent.axis?)
  := by
  rw [mapM_eq_ok_iff, ← filterMap_axis?_items]
  apply List.rel_filterMap _ delivered
  intro item event due
  rcases Item.due_eq_ok due with ⟨e, axis, rfl, read, rfl⟩ | ⟨e, ordinal, rfl, -, rfl⟩
  · exact Option.Rel.some read
  · apply Option.Rel.none

/-- The calls that are due for a result deliver all its cells with their numbers. -/
theorem mapM_numberedCell_of_delivered
    {root : Element} {events : List CellEvent} (delivered : Delivered (items root) events) :
  (cellElements root).mapM numberedCell = .ok (events.filterMap CellEvent.cell?)
  := by
  rw [mapM_eq_ok_iff, ← filterMap_cell?_items]
  apply List.rel_filterMap _ delivered
  intro item event due
  rcases Item.due_eq_ok due with ⟨e, axis, rfl, -, rfl⟩ | ⟨e, ordinal, rfl, read, rfl⟩
  · apply Option.Rel.none
  · apply Option.Rel.some
    rw [numberedCell, read]
    rfl

/-- Axes and cells do not meet in a cell set, so it plays no part how they come among each other. -/
theorem foldl_after_of_delivered
    {items : List Item} {events : List CellEvent} (delivered : Delivered items events)
    (s : CellSet) :
  events.foldl CellSet.after s
    = s.extended (events.filterMap CellEvent.axis?) (events.filterMap CellEvent.cell?)
  := by
  induction delivered generalizing s with
  | nil => rw [List.foldl_nil, List.filterMap_nil, List.filterMap_nil, CellSet.extended_nil]
  | cons first _ ih =>
    rw [List.foldl_cons, ih]
    rcases Item.due_eq_ok first with ⟨e, axis, -, -, rfl⟩ | ⟨e, ordinal, -, -, rfl⟩
    · exact (CellSet.extended_cons_axis s axis _ _).symm
    · exact (CellSet.extended_cons_cell s _ (ordinal, e) _).symm

/-- Where every axis and every cell can be read, every item can. -/
theorem readable_of_mapM
    {root : Element} {axes : List Axis} {cells : List (Nat × Element)}
    (readAxes : (axisElements root).mapM readAxis = .ok axes)
    (readCells : (cellElements root).mapM numberedCell = .ok cells) :
  Readable ((items root).map Item.due)
  := by
  intro due mem
  obtain ⟨item, item_mem, rfl⟩ := List.mem_map.mp mem
  cases item with
  | axis e =>
    have axis : e ∈ axisElements root := by
      rw [← filterMap_axis?_items]
      exact List.mem_filterMap.mpr ⟨.axis e, item_mem, rfl⟩
    obtain ⟨axis, read⟩ := exists_mapM_eq_ok_iff.mp ⟨axes, readAxes⟩ e axis
    exact ⟨.axis axis, by rw [Item.due, read]; rfl⟩
  | cell e =>
    have cell : e ∈ cellElements root := by
      rw [← filterMap_cell?_items]
      exact List.mem_filterMap.mpr ⟨.cell e, item_mem, rfl⟩
    obtain ⟨cell, read⟩ := exists_mapM_eq_ok_iff.mp ⟨cells, readCells⟩ e cell
    obtain ⟨ordinal, read, -⟩ := map_eq_ok_iff.mp read
    exact ⟨.cell ordinal e, by rw [Item.due, read]; rfl⟩

/-! ### The cell set that is read -/

/-- The cell set in which nothing but an announcement was collected. -/
def CellSet.announced (info : CubeInfo) : CellSet :=
  ⟨info, [], none, ∅⟩

theorem readable_schedule_iff {root : Element} {items : List Item} :
  Readable (schedule root items) ↔ Readable (items.map Item.due)
  := by
  rw [schedule, List.cons_append, readable_cons_ok, Readable, List.forall_mem_append]
  apply and_iff_left
  simp

theorem outcome_of_delivered
    {payload root : Element} (found : payload.findChild? datasetNs "root" = some root)
    {events : List CellEvent} (delivered : Delivered (items root) events) :
  (readCellSet collecting payload).outcome .empty
    = (.ok (), (CellSet.announced (readInfo root)).extended (events.filterMap CellEvent.axis?)
        (events.filterMap CellEvent.cell?))
  := by
  have plan : schedule root (items root)
      = (CellEvent.info (readInfo root) :: events ++ [CellEvent.finish]).map .ok := by
    simp [schedule, delivered_iff.mp delivered]
  rw [readCellSet, found]
  simp only [Handling.outcome, readRoot_eq_carryOut, plan, carryOut_map_ok call_collecting]
  rw [List.cons_append, List.foldl_cons, List.foldl_append, foldl_after_of_delivered delivered]
  rfl

/-- A result is read into an empty cell set when all its axes and all its cells can be read, and the
cell set then holds them. -/
theorem outcome_collecting_iff
    {payload root : Element} (found : payload.findChild? datasetNs "root" = some root)
    {s : CellSet} :
  (readCellSet collecting payload).outcome .empty = (.ok (), s)
    ↔ ∃ axes cells, (axisElements root).mapM readAxis = .ok axes
      ∧ (cellElements root).mapM numberedCell = .ok cells
      ∧ s = (CellSet.announced (readInfo root)).extended axes cells
  := by
  constructor
  · intro reads
    have fulfils := fulfils_schedule found collecting .empty
    rw [← outcome_eq_ending, reads] at fulfils
    obtain ⟨events, plan⟩ := readable_iff.mp (readable_schedule_iff.mp (fulfils.readable rfl))
    have delivered := delivered_iff.mpr plan
    rw [outcome_of_delivered found delivered] at reads
    cases reads
    exact ⟨_, _, mapM_readAxis_of_delivered delivered, mapM_numberedCell_of_delivered delivered, rfl⟩
  · rintro ⟨axes, cells, readAxes, readCells, rfl⟩
    obtain ⟨events, plan⟩ := readable_iff.mp (readable_of_mapM readAxes readCells)
    have delivered := delivered_iff.mpr plan
    rw [mapM_readAxis_of_delivered delivered] at readAxes
    rw [mapM_numberedCell_of_delivered delivered] at readCells
    cases readAxes
    cases readCells
    apply outcome_of_delivered found delivered

/-- A read into a cell set fails only because the payload is malformed. -/
theorem isMalformed_of_ending
    {payload : Element} {s : CellSet} {failure : Failure}
    (fails : (ending (readCellSet collecting payload) s).1 = .error failure) :
  IsMalformed failure
  := by
  by_contra other
  obtain ⟨made, mem, ended⟩ := (ending_readCellSet_eq_error_iff collecting payload s other).mp fails
  obtain ⟨before, same⟩ := possible_of_mem_calls mem
  rw [ending, call_collecting, ended] at same
  cases same

end OlapClient.Cube
