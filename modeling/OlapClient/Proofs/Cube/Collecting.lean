import Mathlib.Tactic.Common
import OlapClient.Cube.CellSet
import OlapClient.Proofs.Handling.Callbacks

/-!
# Collecting a multidimensional result

A result that is read into a cell set is laid over what the cell set holds: only the announcement
of the cube is always replaced.  The axes come after those that are held, a slicer and a cell take
the place of one that is held, and what the result does not have stays.  `reading_replaces_iff`
says when nothing of an earlier result is left behind, and `reading_twice_mixes` that a second
reading of the same result already leaves something.
-/

namespace OlapClient.Cube

open OlapClient.Markup
open OlapClient.Protocol

namespace CellSet

/-- What a read leaves of a cell set that held something, where `read` is what it leaves of an
empty one. -/
def laidOver (read held : CellSet) : CellSet where
  info := read.info
  axes := held.axes ++ read.axes
  slicer := read.slicer.or held.slicer
  cells := held.cells ∪ read.cells

theorem addAxis_laidOver (s held : CellSet) (axis : Axis) :
  (s.addAxis axis).laidOver held = (s.laidOver held).addAxis axis
  := by
  by_cases slicer : axis.isSlicer
  · simp [addAxis, laidOver, slicer]
  · simp [addAxis, laidOver, slicer]

theorem addCell_laidOver (s held : CellSet) (ordinal : Nat) (cell : Element) :
  (s.addCell ordinal cell).laidOver held = (s.laidOver held).addCell ordinal cell
  := by
  have cells : held.cells ∪ s.cells.insert ordinal cell
      = (held.cells ∪ s.cells).insert ordinal cell :=
    Std.ExtTreeMap.union_insert_right_eq_insert_union (p := ⟨ordinal, cell⟩)
  simp only [addCell, laidOver, cells]

/-- Laid over a cell set, an announcement alone replaces the one that is held. -/
theorem laidOver_announced (info : CubeInfo) (held : CellSet) :
  CellSet.laidOver ⟨info, [], none, ∅⟩ held = ⟨info, held.axes, held.slicer, held.cells⟩
  := by
  have cells : held.cells ∪ ∅ = held.cells := by
    apply Std.ExtTreeMap.ext_getElem?
    intro ordinal
    apply Std.ExtTreeMap.getElem?_union_of_not_mem_right
    apply Std.ExtTreeMap.not_mem_empty
  simp only [laidOver, List.append_nil, Option.none_or, cells]

/-- A cell set holds nothing that another would leave behind when it is laid over it. -/
structure CoveredBy (held read : CellSet) : Prop where
  axes : held.axes = []
  slicer : held.slicer ≠ none → read.slicer ≠ none
  cells : ∀ ordinal, ordinal ∈ held.cells → ordinal ∈ read.cells

/-- What is laid over a cell set replaces it exactly when it covers it. -/
theorem laidOver_eq_self_iff (read held : CellSet) :
  read.laidOver held = read ↔ held.CoveredBy read
  := by
  constructor
  · intro same
    constructor
    · have axes := congrArg CellSet.axes same
      simpa [laidOver] using axes
    · intro some_held none_read
      have slicer := congrArg CellSet.slicer same
      simp only [laidOver, none_read, Option.none_or] at slicer
      apply some_held slicer
    · intro ordinal mem
      have cells : held.cells ∪ read.cells = read.cells := congrArg CellSet.cells same
      rw [← cells]
      apply Std.ExtTreeMap.mem_union_of_left mem
  · rintro ⟨axes, slicer, cells⟩
    have slicers : read.slicer.or held.slicer = read.slicer := by
      cases found : read.slicer with
      | some axis => rfl
      | none =>
        rw [Option.none_or]
        by_contra some_held
        apply slicer some_held found
    have all_cells : held.cells ∪ read.cells = read.cells := by
      apply Std.ExtTreeMap.ext_getElem?
      intro ordinal
      by_cases mem : ordinal ∈ held.cells
      · obtain ⟨cell, found⟩ := Option.isSome_iff_exists.mp
          (Std.ExtTreeMap.mem_iff_isSome_getElem?.mp (cells ordinal mem))
        simp [Std.ExtTreeMap.getElem?_union, found]
      · apply Std.ExtTreeMap.getElem?_union_of_not_mem_left mem
    simp only [laidOver, axes, List.nil_append, slicers, all_cells]

end CellSet

/-! ### Reading over a cell set -/

/-- What a part of a result adds to a cell set is what it adds to one that is laid over another. -/
theorem follows_passPart_laidOver (held : CellSet) (part : Element) :
  Follows (CellSet.laidOver · held) (passPart collecting part) (passPart collecting part)
  := by
  apply follows_passPart
  · intro axis
    apply Follows.modify
    intro s
    apply CellSet.addAxis_laidOver
  · intro ordinal cell
    apply Follows.modify
    intro s
    apply CellSet.addCell_laidOver

/-- A result is read into a cell set as into an empty one, and what is read is laid over what is
held. -/
theorem readRoot_collecting_laidOver (root : Element) (held : CellSet) :
  readRoot collecting root held
    = viewed (CellSet.laidOver · held) (readRoot collecting root .empty)
  := by
  -- the announcement is replaced first, so what was announced before plays no part
  have rest : Follows (CellSet.laidOver · held)
      (root.children.forM (passPart collecting) >>= fun _ => collecting.onFinish)
      (root.children.forM (passPart collecting) >>= fun _ => collecting.onFinish) := by
    apply Follows.bind
    · apply Follows.forM
      intro part _
      apply follows_passPart_laidOver
    · intro _
      apply Follows.pure
  have follows := rest ⟨readInfo root, [], none, ∅⟩
  simp only [CellSet.laidOver_announced] at follows
  apply follows.symm

/-- A read that succeeds on some cell set succeeds on an empty one, and lays what it leaves of that
one over what is held. -/
theorem readCellSet_collecting_laidOver
    {payload : Element} {held after : CellSet}
    (reads : (readCellSet collecting payload).outcome held = (.ok (), after)) :
  ∃ fresh, (readCellSet collecting payload).outcome .empty = (.ok (), fresh)
    ∧ after = fresh.laidOver held
  := by
  cases found : payload.findChild? datasetNs "root" with
  | none =>
    rw [readCellSet, found] at reads
    cases reads
  | some root =>
    rw [readCellSet, found] at reads ⊢
    simp only [Handling.outcome, readRoot_collecting_laidOver root held] at reads ⊢
    cases read : readRoot collecting root .empty with
    | ok _ fresh =>
      rw [read] at reads
      cases reads
      exact ⟨fresh, rfl, rfl⟩
    | error failure fresh =>
      rw [read] at reads
      cases reads

/-! ### What an earlier result leaves behind -/

/-- The cell sets that reads lead to from an empty one, whatever comes of them. -/
inductive Reached : CellSet → Prop where
  | empty : Reached .empty
  | read (payload : Element) {held : CellSet} (reached : Reached held) :
      Reached ((readCellSet collecting payload).outcome held).2

/-- A read that succeeds leaves what it leaves of an empty cell set exactly when the cell set held
no axis, no slicer that the result lacks and no cell that the result lacks. -/
theorem reading_replaces_iff
    {payload : Element} {held after : CellSet}
    (reads : (readCellSet collecting payload).outcome held = (.ok (), after)) :
  ∃ fresh, (readCellSet collecting payload).outcome .empty = (.ok (), fresh)
    ∧ (after = fresh ↔ held.CoveredBy fresh)
  := by
  obtain ⟨fresh, fresh_reads, laid⟩ := readCellSet_collecting_laidOver reads
  use fresh, fresh_reads
  rw [laid]
  apply CellSet.laidOver_eq_self_iff

/-- An element of a multidimensional result. -/
def part (name : String) (attributes : List Attribute) (children : List Element) : Element :=
  ⟨⟨name, some datasetNs, name, attributes⟩, .ofNodes (children.map .element)⟩

/-- A result of one axis with one position and no members. -/
def oneAxis : Element :=
  part "return" [] [part "root" [] [part "Axes" []
    [part "Axis" [⟨"name", none, "name", "Axis0"⟩] [part "Tuples" [] [part "Tuple" [] []]]]]]

/-- The axis of `oneAxis`. -/
def onlyAxis : Axis :=
  ⟨"Axis0", [⟨[]⟩]⟩

theorem readCellSet_oneAxis (axes : List Axis) :
  (readCellSet collecting oneAxis).outcome ⟨.empty, axes, none, ∅⟩
    = (.ok (), ⟨.empty, axes ++ [onlyAxis], none, ∅⟩)
  := rfl

theorem reading_replaces_iff_oneAxis :
  ∃ fresh, (readCellSet collecting oneAxis).outcome .empty = (.ok (), fresh)
    ∧ (⟨.empty, [onlyAxis, onlyAxis], none, ∅⟩ = fresh
      ↔ CellSet.CoveredBy ⟨.empty, [onlyAxis], none, ∅⟩ fresh)
  := reading_replaces_iff (readCellSet_oneAxis [onlyAxis])

/-- A second reading of the same result into the same cell set has its axis twice. -/
theorem reading_twice_mixes :
  ¬ ∀ (payload : Element) (held after fresh : CellSet), Reached held →
    (readCellSet collecting payload).outcome held = (.ok (), after) →
    (readCellSet collecting payload).outcome .empty = (.ok (), fresh) → after = fresh
  := by
  intro replaces
  have reached : Reached ⟨.empty, [onlyAxis], none, ∅⟩ := .read oneAxis .empty
  have same := replaces oneAxis _ _ _ reached (readCellSet_oneAxis [onlyAxis])
    (readCellSet_oneAxis [])
  have axes := congrArg (fun s => s.axes.length) same
  cases axes

end OlapClient.Cube
