import Mathlib.Data.Set.Card
import Mathlib.Tactic.Common
import OlapClient.Proofs.Cube.Contents
import OlapClient.Proofs.Cube.Coordinates

/-!
# The cells of a result

A result has its cells in any order, may leave cells out and may have several with one number.
`cells_read_sparsely` says to which cell of the result a number leads in the cell set that is read:
to the last one with that number, and to none and no value if there is none.  Cells whose numbers
differ may change places, within a part of the result or from one part to another.
-/

namespace OlapClient.Cube

open OlapClient.Markup
open OlapClient.Protocol

/-! ### The last cell with a number -/

/-- A cell is the last one of some cells with a number. -/
def IsLast (cells : List Element) (ordinal : Nat) (e : Element) : Prop :=
  ∃ before after, cells = before ++ e :: after ∧ HasOrdinal e ordinal
    ∧ ∀ later ∈ after, ¬ HasOrdinal later ordinal

/-- The ones of some cells that have a number. -/
def withOrdinal (ordinal : Nat) (cells : List Element) : List Element :=
  cells.filter (HasOrdinal · ordinal)

/-- The last one of some cells with a number, if there is one. -/
def lastCell? (ordinal : Nat) (cells : List Element) : Option Element :=
  (withOrdinal ordinal cells).getLast?

/-- No two of some cells have a number in common. -/
def HaveDistinctOrdinals (cells : List Element) : Prop :=
  cells.Pairwise fun e e' => ∀ ordinal, HasOrdinal e ordinal → ¬ HasOrdinal e' ordinal

theorem mem_withOrdinal_iff {cells : List Element} {ordinal : Nat} {e : Element} :
  e ∈ withOrdinal ordinal cells ↔ e ∈ cells ∧ HasOrdinal e ordinal
  := by rw [withOrdinal, List.mem_filter, decide_eq_true_eq]

theorem lastCell?_eq_some_iff {cells : List Element} {ordinal : Nat} {e : Element} :
  lastCell? ordinal cells = some e ↔ IsLast cells ordinal e
  := by
  simp only [lastCell?, withOrdinal, List.getLast?_filter, List.find?_eq_some_iff_append,
    Bool.not_eq_true', decide_eq_true_eq, decide_eq_false_iff_not]
  constructor
  · rintro ⟨has, after, before, reversed, last⟩
    use before.reverse, after.reverse
    rw [List.reverse_eq_iff] at reversed
    refine ⟨by simp [reversed], has, ?_⟩
    intro later mem
    apply last later (List.mem_reverse.mp mem)
  · rintro ⟨before, after, rfl, has, last⟩
    use has, after.reverse, before.reverse, by simp
    intro later mem
    apply last later (List.mem_reverse.mp mem)

theorem isSome_lastCell?_iff {cells : List Element} {ordinal : Nat} :
  (lastCell? ordinal cells).isSome ↔ ∃ e ∈ cells, HasOrdinal e ordinal
  := by
  simp only [lastCell?, withOrdinal, List.getLast?_filter, List.find?_isSome, List.mem_reverse,
    decide_eq_true_eq]

/-- The same cells, of which those with one number keep their order.  How they are distributed over
the parts of a result plays no part. -/
structure Rearranged (cells cells' : List Element) : Prop where
  perm : cells'.Perm cells
  kept : ∀ ordinal, withOrdinal ordinal cells' = withOrdinal ordinal cells

theorem Rearranged.lastCell?_eq {cells cells' : List Element} (h : Rearranged cells cells')
    (ordinal : Nat) :
  lastCell? ordinal cells' = lastCell? ordinal cells
  := by rw [lastCell?, h.kept, lastCell?]

/-- Of cells without a number in common, at most one has a given number. -/
theorem eq_nil_of_distinct {e : Element} {cells : List Element} {ordinal : Nat}
    (distinct : HaveDistinctOrdinals (e :: cells))
    (all : ∀ e' ∈ e :: cells, HasOrdinal e' ordinal) :
  cells = []
  := by
  rw [HaveDistinctOrdinals, List.pairwise_cons] at distinct
  rw [List.forall_mem_cons] at all
  rw [List.eq_nil_iff_forall_not_mem]
  intro e' mem
  apply distinct.1 e' mem ordinal all.1 (all.2 e' mem)

/-- Cells without a number in common may come in any order. -/
theorem rearranged_of_distinct {cells cells' : List Element} (distinct : HaveDistinctOrdinals cells)
    (perm : cells'.Perm cells) :
  Rearranged cells cells'
  := by
  use perm
  intro ordinal
  have same : (withOrdinal ordinal cells').Perm (withOrdinal ordinal cells) := perm.filter _
  have apart : HaveDistinctOrdinals (withOrdinal ordinal cells) := distinct.filter _
  have all : ∀ e ∈ withOrdinal ordinal cells, HasOrdinal e ordinal :=
    fun e mem => (mem_withOrdinal_iff.mp mem).2
  cases found : withOrdinal ordinal cells with
  | nil =>
    rw [found] at same
    apply List.perm_nil.mp same
  | cons e rest =>
    rw [found] at same apart all
    rw [eq_nil_of_distinct apart all] at same ⊢
    apply List.perm_singleton.mp same

/-! ### The cells that are stored -/

theorem CellSet.getElem?_stored
    {elements : List Element} {cells : List (Nat × Element)}
    (numbered : List.Forall₂ (fun e cell => numberedCell e = .ok cell) elements cells)
    (held : Std.ExtTreeMap Nat Element) (ordinal : Nat) :
  (stored held cells)[ordinal]? = (lastCell? ordinal elements).or held[ordinal]?
  := by
  induction numbered generalizing held with
  | nil => rfl
  | @cons e cell elements cells first _ ih =>
    obtain ⟨number, read, rfl⟩ := map_eq_ok_iff.mp first
    rw [stored, List.foldl_cons, ← stored, ih, Std.ExtTreeMap.getElem?_insert, lastCell?, lastCell?]
    have has : HasOrdinal e ordinal ↔ number = ordinal := by
      rw [← readOrdinal_eq_ok_iff, read, Except.ok.injEq]
    by_cases same : number = ordinal
    · simp [withOrdinal, has, same, List.getLast?_cons]
    · simp [withOrdinal, has, same]

section

variable {payload root : Element} {s : CellSet}

/-- What is stored under a number is the last cell of the result with that number. -/
theorem getElem?_cells
    (found : payload.findChild? datasetNs "root" = some root)
    (reads : (readCellSet collecting payload).outcome .empty = (.ok (), s)) (ordinal : Nat) :
  s.cells[ordinal]? = lastCell? ordinal (cellElements root)
  := by
  obtain ⟨axes, cells, -, readCells, rfl⟩ := (outcome_collecting_iff found).mp reads
  rw [CellSet.extended, CellSet.getElem?_stored (mapM_eq_ok_iff.mp readCells)]
  apply Option.or_none

theorem storedCount_eq_ncard
    (found : payload.findChild? datasetNs "root" = some root)
    (reads : (readCellSet collecting payload).outcome .empty = (.ok (), s)) :
  s.storedCount = {ordinal | ∃ e ∈ cellElements root, HasOrdinal e ordinal}.ncard
  := by
  have keys : {ordinal | ∃ e ∈ cellElements root, HasOrdinal e ordinal}
      = (s.cells.keys.toFinset : Set Nat) := by
    ext ordinal
    rw [Finset.mem_coe, List.mem_toFinset, Std.ExtTreeMap.mem_keys,
      Std.ExtTreeMap.mem_iff_isSome_getElem?, getElem?_cells found reads, isSome_lastCell?_iff]
    rfl
  rw [keys, Set.ncard_coe_finset, List.toFinset_card_of_nodup Std.ExtTreeMap.nodup_keys,
    Std.ExtTreeMap.length_keys]
  rfl

end

/-! ### Reading a cell -/

namespace CellSet

variable {s s' : CellSet} {count : Nat}

theorem cellAt_of_lt (counts : s.cellCount = .ok count) {ordinal : Nat} (below : ordinal < count) :
  s.cellAt ordinal = .ok ⟨ordinal, s.cells[ordinal]?⟩
  := by
  rw [cellAt, checkOrdinal_of_lt counts below]
  rfl

/-- Coordinates within the axes lead to the cell of their number. -/
theorem cell_of_reaches
    (counts : s.cellCount = .ok count) {coordinates : List Nat} (reaches : s.Reaches coordinates) :
  ∃ ordinal < count, s.ordinalOf coordinates = .ok ordinal
    ∧ s.cell coordinates = s.cellAt ordinal
  := by
  obtain ⟨ordinal, number, below, -⟩ := (numbered_of_cellCount counts).ordinal coordinates reaches
  use ordinal, below, number
  rw [cell, number]
  rfl

/-- Cells are looked up in what is stored, along the axes. -/
theorem lookup_congr (axes : s'.axes = s.axes) (cells : s'.cells = s.cells) :
  s'.cellAt = s.cellAt ∧ s'.cell = s.cell ∧ s'.storedCount = s.storedCount
  := by
  obtain ⟨info, _, slicer, _⟩ := s'
  subst axes cells
  exact ⟨rfl, rfl, rfl⟩

end CellSet

/-- A result whose cells are rearranged is read as well, and leaves the same axes and cells. -/
theorem outcome_of_rearranged
    {payload root payload' root' : Element} {s : CellSet}
    (found : payload.findChild? datasetNs "root" = some root)
    (reads : (readCellSet collecting payload).outcome .empty = (.ok (), s))
    (found' : payload'.findChild? datasetNs "root" = some root')
    (axes : axisElements root' = axisElements root)
    (rearranged : Rearranged (cellElements root) (cellElements root')) :
  ∃ s', (readCellSet collecting payload').outcome .empty = (.ok (), s')
    ∧ s'.axes = s.axes ∧ s'.cells = s.cells
  := by
  have stored := getElem?_cells found reads
  obtain ⟨read, cells, readAxes, readCells, rfl⟩ := (outcome_collecting_iff found).mp reads
  obtain ⟨cells', readCells'⟩ : ∃ cells', (cellElements root').mapM numberedCell = .ok cells' := by
    rw [exists_mapM_eq_ok_iff]
    intro e mem
    apply exists_mapM_eq_ok_iff.mp ⟨cells, readCells⟩ e (rearranged.perm.mem_iff.mp mem)
  rw [← axes] at readAxes
  have reads' := (outcome_collecting_iff found').mpr ⟨read, cells', readAxes, readCells', rfl⟩
  refine ⟨_, reads', rfl, ?_⟩
  apply Std.ExtTreeMap.ext_getElem?
  intro ordinal
  rw [getElem?_cells found' reads', stored, rearranged.lastCell?_eq]

/-- In the cell set that is read, a number of a cell leads to the last cell of the result with that
number, and to a cell without a value where there is none; coordinates lead to the same cells.  As
many cells are stored as there are numbers of cells in the result.  A result with the same axes
whose cells are rearranged is read to the same cells, and they may be rearranged in any order where
no two have a number in common. -/
theorem cells_read_sparsely
    {payload root : Element} {s : CellSet}
    (found : payload.findChild? datasetNs "root" = some root)
    (reads : (readCellSet collecting payload).outcome .empty = (.ok (), s)) :
  (∀ count, s.cellCount = .ok count → ∀ ordinal < count,
      ∃ cell, s.cellAt ordinal = .ok cell ∧ cell.ordinal = ordinal
        ∧ (∀ e, cell.element = some e ↔ IsLast (cellElements root) ordinal e)
        ∧ ((∀ e ∈ cellElements root, ¬ HasOrdinal e ordinal) →
            cell.element = none ∧ cell.value = .ok .null))
    ∧ (∀ count, s.cellCount = .ok count → ∀ coordinates, s.Reaches coordinates →
        ∃ ordinal < count, s.ordinalOf coordinates = .ok ordinal
          ∧ s.cell coordinates = s.cellAt ordinal)
    ∧ s.storedCount = {ordinal | ∃ e ∈ cellElements root, HasOrdinal e ordinal}.ncard
    ∧ (∀ payload' root', payload'.findChild? datasetNs "root" = some root' →
        axisElements root' = axisElements root →
        Rearranged (cellElements root) (cellElements root') →
        ∃ s', (readCellSet collecting payload').outcome .empty = (.ok (), s')
          ∧ s'.cellAt = s.cellAt ∧ s'.cell = s.cell ∧ s'.storedCount = s.storedCount)
    ∧ ∀ cells', HaveDistinctOrdinals (cellElements root) → cells'.Perm (cellElements root) →
        Rearranged (cellElements root) cells'
  := by
  refine ⟨?_, ?_, storedCount_eq_ncard found reads, ?_, ?_⟩
  · intro count counts ordinal below
    refine ⟨_, CellSet.cellAt_of_lt counts below, rfl, ?_, ?_⟩
    · intro e
      rw [getElem?_cells found reads, lastCell?_eq_some_iff]
    · intro absent
      have none_stored : s.cells[ordinal]? = none := by
        rw [getElem?_cells found reads, ← Option.not_isSome_iff_eq_none, isSome_lastCell?_iff]
        rintro ⟨e, mem, has⟩
        apply absent e mem has
      rw [none_stored]
      exact ⟨rfl, rfl⟩
  · intro count counts coordinates reaches
    apply CellSet.cell_of_reaches counts reaches
  · intro payload' root' found' axes rearranged
    obtain ⟨s', reads', sameAxes, sameCells⟩ :=
      outcome_of_rearranged found reads found' axes rearranged
    exact ⟨s', reads', CellSet.lookup_congr sameAxes sameCells⟩
  · intro cells' distinct perm
    apply rearranged_of_distinct distinct perm

/-- An axis with three positions. -/
def threePositions : Element :=
  part "Axis" [⟨"name", none, "name", "Axis0"⟩]
    [part "Tuples" [] [part "Tuple" [] [], part "Tuple" [] [], part "Tuple" [] []]]

/-- A cell with a number. -/
def cellOf (ordinal : String) : Element :=
  part "Cell" [⟨"CellOrdinal", none, "CellOrdinal", ordinal⟩] []

/-- Two cells of three, the second one first. -/
def turnedRoot : Element :=
  part "root" [] [part "Axes" [] [threePositions], part "CellData" [] [cellOf " +1 ", cellOf "00"]]

/-- The same cells in order, and in two parts. -/
def splitRoot : Element :=
  part "root" [] [part "CellData" [] [cellOf "00"], part "Axes" [] [threePositions],
    part "CellData" [] [cellOf " +1 "]]

theorem cells_read_sparsely_turned :
  (part "return" [] [turnedRoot]).findChild? datasetNs "root" = some turnedRoot
    ∧ ∃ s, (readCellSet collecting (part "return" [] [turnedRoot])).outcome .empty = (.ok (), s)
      ∧ (∃ cell, s.cellAt 1 = .ok cell
        ∧ ∀ e, cell.element = some e ↔ IsLast (cellElements turnedRoot) 1 e)
      ∧ (∃ cell, s.cellAt 2 = .ok cell ∧ cell.value = .ok .null)
      ∧ ∃ s', (readCellSet collecting (part "return" [] [splitRoot])).outcome .empty = (.ok (), s')
        ∧ s'.cellAt = s.cellAt ∧ s'.cell = s.cell ∧ s'.storedCount = s.storedCount
  := by
  have found : (part "return" [] [turnedRoot]).findChild? datasetNs "root" = some turnedRoot := rfl
  have reads := (outcome_collecting_iff found).mpr
    ⟨[⟨"Axis0", [⟨[]⟩, ⟨[]⟩, ⟨[]⟩]⟩], [(1, cellOf " +1 "), (0, cellOf "00")], by decide, by decide,
      rfl⟩
  obtain ⟨lookup, -, -, rearrange, distinct⟩ := cells_read_sparsely found reads
  obtain ⟨cell, here, -, last, -⟩ := lookup 3 rfl 1 (by decide)
  obtain ⟨cell', there, -, -, absent⟩ := lookup 3 rfl 2 (by decide)
  -- each of the two cells has one number
  have one {ordinal : Nat} : HasOrdinal (cellOf " +1 ") ordinal ↔ ordinal = 1 := by
    rw [← readOrdinal_eq_ok_iff, show readOrdinal (cellOf " +1 ") = .ok 1 by decide]
    simp [eq_comm]
  have zero {ordinal : Nat} : HasOrdinal (cellOf "00") ordinal ↔ ordinal = 0 := by
    rw [← readOrdinal_eq_ok_iff, show readOrdinal (cellOf "00") = .ok 0 by decide]
    simp [eq_comm]
  have cells : cellElements turnedRoot = [cellOf " +1 ", cellOf "00"] := rfl
  have apart : HaveDistinctOrdinals (cellElements turnedRoot) := by
    simp [HaveDistinctOrdinals, cells, one, zero]
  have perm : (cellElements splitRoot).Perm (cellElements turnedRoot) := by decide
  refine ⟨found, _, reads, ⟨cell, here, last⟩, ⟨cell', there, (absent ?_).2⟩, ?_⟩
  · simp [cells, one, zero]
  · apply rearrange _ splitRoot rfl rfl (distinct _ apart perm)

end OlapClient.Cube
