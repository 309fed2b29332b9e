import OlapClient.Proofs.Table.Interleaving
import OlapClient.Proofs.Table.Reaching

/-!
# Both ways over the rows

`RowSet.visits` makes one movement over and over and looks at the current row each time.  From
before the first row, moving on visits the rows in their order, and from after the last row, moving
back visits them in the opposite order; each row is visited once, and no visit after the last finds a
row.  The two movements answer differently: moving on answers whether it came to a row, and moving
back whether it left the rows.  `rows_traversed` says so of every row set that a result was read
into, wherever its cursor was moved before, and that on a row the two movements undo each other.
-/

namespace OlapClient.Table

open OlapClient.Markup
open OlapClient.Protocol

/-! ### Positions and answers -/

namespace Cursor

theorem answer_previous (c : Cursor) :
  (c.move .previous).2 = some (c.target .previous == before)
  := rfl

/-- A step back leads back by one position, at most to before the first row. -/
theorem repeated_previous {c : Cursor} (above : before ≤ c.position) (times : Nat) :
  c.repeated .previous times = c.movedTo (max (c.position - times) before)
  := by
  rw [before] at *
  induction times with
  | zero =>
    have stays : max (c.position - (0 : Nat)) (-1) = c.position := by omega
    rw [stays]
    rfl
  | succ times ih =>
    have back : (c.repeated .previous times).target .previous
        = max (c.position - (times + 1 : Nat)) (-1) := by
      rw [ih, target, position_movedTo, before]
      omega
    rw [repeated_succ, move_eq, back, ih]
    rfl

theorem isBeforeFirst_beforeFirst {c : Cursor} (some_row : 0 < c.length) :
  c.beforeFirst.isBeforeFirst = true
  := by
  simp [isBeforeFirst, beforeFirst, movedTo, some_row]

section

variable {c : Cursor} (positions : (c.length : Int) ≤ greatestPosition) {i : Nat}
  (index : c.index = .ok i)

include index

theorem target_previous_of_index :
  c.target .previous = c.position - 1
  := by
  have place := (index_eq_ok_iff.mp index).1
  rw [target, before]
  omega

include positions

theorem target_next_of_index :
  c.target .next = c.position + 1
  := by
  obtain ⟨place, below⟩ := index_eq_ok_iff.mp index
  rw [target, limit_eq_length positions, if_pos]
  omega

/-- On a row, a step on and a step back undo each other. -/
theorem final_next_previous :
  c.final [.next, .previous] = c ∧ c.final [.previous, .next] = c
  := by
  have limit := limit_eq_length positions
  obtain ⟨place, below⟩ := index_eq_ok_iff.mp index
  have forth : (c.movedTo (c.position + 1)).target .previous = c.position := by
    rw [target, position_movedTo, before]
    omega
  have back : (c.movedTo (c.position - 1)).target .next = c.position := by
    rw [target, position_movedTo, limit_movedTo, if_pos (by omega)]
    omega
  constructor
  · simp only [final, move_eq, target_next_of_index positions index, forth]
    rfl
  · simp only [final, move_eq, target_previous_of_index index, back]
    rfl

/-- On a row, a step leads to the neighbour on its side, if there is one. -/
theorem index_neighbours :
  (i + 1 < c.length → (c.move .next).1.index = .ok (i + 1))
    ∧ (0 < i → (c.move .previous).1.index = .ok (i - 1))
  := by
  obtain ⟨place, below⟩ := index_eq_ok_iff.mp index
  constructor
  · intro follows
    rw [index_eq_ok_iff, position_move, length_move, target_next_of_index positions index]
    omega
  · intro precedes
    rw [index_eq_ok_iff, position_move, length_move, target_previous_of_index index]
    omega

end

end Cursor

namespace RowSet

/-! ### Visits -/

/-- What a movement and a look at the current row after it give. -/
structure Visit where
  answer : Option Bool
  row : Except Failure Row
  deriving DecidableEq, Repr

/-- The visits of a movement that is made a number of times. -/
def visits (s : RowSet) (m : Move) : Nat → List Visit
  | 0 => []
  | times + 1 => ⟨(s.move m).2, (s.move m).1.current⟩ :: (s.move m).1.visits m times

/-- A row set after a movement that is made a number of times. -/
def repeated (s : RowSet) (m : Move) (times : Nat) : RowSet :=
  s.final (List.replicate times m)

theorem repeated_eq (s : RowSet) (m : Move) (times : Nat) :
  s.repeated m times = ⟨s.columns, s.rows, s.cursor.repeated m times⟩
  := final_eq s _

/-- The visit of a movement that was made a number of times before. -/
def visit (s : RowSet) (m : Move) (earlier : Nat) : Visit :=
  ⟨((s.repeated m earlier).move m).2, (s.repeated m (earlier + 1)).current⟩

theorem visits_eq (s : RowSet) (m : Move) (times : Nat) :
  s.visits m times = (List.range times).map (s.visit m)
  := by
  induction times generalizing s with
  | zero => rfl
  | succ times ih =>
    rw [visits, ih, List.range_succ_eq_map, List.map_cons, List.map_map]
    rfl

/-- Visits that are known one by one: those of a list, and the same over and over after them. -/
theorem visits_eq_append
    {s : RowSet} {m : Move} {visited : List Visit} {missed : Visit} {count : Nat}
    (length : visited.length = count)
    (each : ∀ (k : Nat) (among : k < visited.length), s.visit m k = visited[k])
    (after : ∀ k, count ≤ k → s.visit m k = missed) (more : Nat) :
  s.visits m (count + more) = visited ++ List.replicate more missed
  := by
  rw [visits_eq, List.range_add, List.map_append, List.map_map]
  congr 1
  · apply List.ext_getElem
    · rw [List.length_map, List.length_range, length]
    · intro k _ among
      rw [List.getElem_map, List.getElem_range, each k among]
  · apply List.eq_replicate_iff.mpr
    constructor
    · rw [List.length_map, List.length_range]
    · intro visit mem
      obtain ⟨k, -, rfl⟩ := List.mem_map.mp mem
      apply after
      apply Nat.le_add_right

variable {s : RowSet}

theorem current_of_off
    (fitting : s.Fitting) (off : s.cursor.position < 0 ∨ (s.rows.size : Int) ≤ s.cursor.position) :
  s.current = .error (.cursorPosition s.cursor.position s.rows.size)
  := by
  obtain ⟨i, stored, index, -⟩ | ⟨-, refused⟩ := found_of_fitting fitting
  · have place := (Cursor.index_eq_ok_iff.mp index).1
    omega
  · apply refused

section

variable (fitting : s.Fitting) {m : Move} {earlier : Nat} {answer : Bool}
  (answers : ((s.cursor.repeated m earlier).move m).2 = some answer)

include fitting answers

/-- A visit of a stored row. -/
theorem visit_of_row
    {k : Nat} (stored : k < s.rows.size)
    (place : (s.cursor.repeated m (earlier + 1)).position = k) :
  s.visit m earlier = ⟨some answer, .ok (s.rowOf s.rows[k])⟩
  := by
  have fits : (s.repeated m (earlier + 1)).Fitting := fitting_final fitting _
  rw [repeated_eq] at fits
  rw [visit, repeated_eq, repeated_eq, current_of_position fits stored place, ← answers]
  rfl

/-- A visit of no row. -/
theorem visit_of_off
    {position : Int} (off : position < 0 ∨ (s.rows.size : Int) ≤ position)
    (place : (s.cursor.repeated m (earlier + 1)).position = position) :
  s.visit m earlier = ⟨some answer, .error (.cursorPosition position s.rows.size)⟩
  := by
  have fits : (s.repeated m (earlier + 1)).Fitting := fitting_final fitting _
  rw [repeated_eq] at fits
  rw [← place] at off
  rw [visit, repeated_eq, repeated_eq, current_of_off fits off, ← answers, ← place]
  rfl

end

/-! ### Either way -/

section

variable (fitting : s.Fitting)

include fitting

/-- The visits of moving on from before the first row: each row, and then none. -/
theorem visits_next
    (positions : (s.rows.size : Int) ≤ Cursor.greatestPosition)
    (first : s.cursor = .start s.rows.size) (more : Nat) :
  s.visits .next (s.rows.size + more)
    = s.allRows.map (fun row => ⟨some true, .ok row⟩)
      ++ List.replicate more ⟨some false, .error (.cursorPosition s.rows.size s.rows.size)⟩
  := by
  have limit : (Cursor.start s.rows.size).limit = s.rows.size := Cursor.limit_eq_length positions
  have place (k : Nat) :
      (s.cursor.repeated .next (k + 1)).position = min (k : Int) s.rows.size := by
    rw [first, Cursor.repeated_next, Cursor.position_movedTo, limit]
    omega
  have answers (k : Nat) :
      ((s.cursor.repeated .next k).move .next).2 = some (decide (k < s.rows.size)) := by
    rw [first]
    apply Cursor.answer_next positions
  apply visits_eq_append
  · simp [allRows]
  · intro k among
    have below : k < s.rows.size := by simpa [allRows] using among
    have answer := answers k
    rw [decide_eq_true below] at answer
    rw [visit_of_row fitting answer below (by rw [place]; omega)]
    simp [allRows]
  · intro k beyond
    have answer := answers k
    rw [decide_eq_false (Nat.not_lt_of_le beyond)] at answer
    apply visit_of_off fitting answer (.inr (Int.le_refl _))
    rw [place]
    omega

/-- The visits of moving back from after the last row: each row, and then none. -/
theorem visits_previous (last : s.cursor.position = s.rows.size) (more : Nat) :
  s.visits .previous (s.rows.size + more)
    = s.allRows.reverse.map (fun row => ⟨some false, .ok row⟩)
      ++ List.replicate more ⟨some true, .error (.cursorPosition Cursor.before s.rows.size)⟩
  := by
  have above : Cursor.before ≤ s.cursor.position := by
    rw [last, Cursor.before]
    omega
  have place (k : Nat) :
      (s.cursor.repeated .previous k).position = max ((s.rows.size : Int) - k) (-1) := by
    rw [Cursor.repeated_previous above, last]
    rfl
  have answers (k : Nat) :
      ((s.cursor.repeated .previous k).move .previous).2 = some (decide (s.rows.size ≤ k)) := by
    rw [Cursor.answer_previous, ← Cursor.position_move, ← Cursor.repeated_succ, place,
      Option.some.injEq, Bool.eq_iff_iff, beq_iff_eq, decide_eq_true_iff, Cursor.before]
    omega
  apply visits_eq_append
  · simp [allRows]
  · intro k among
    have below : k < s.rows.size := by simpa [allRows] using among
    have answer := answers k
    rw [decide_eq_false (Nat.not_le_of_lt below)] at answer
    rw [visit_of_row fitting answer (k := s.rows.size - 1 - k) (by omega) (by rw [place]; omega)]
    simp [allRows]
  · intro k beyond
    have answer := answers k
    rw [decide_eq_true beyond] at answer
    apply visit_of_off fitting answer (.inl (by decide))
    rw [place, Cursor.before]
    omega

end

/-! ### From anywhere -/

/-- A walk from either end visits every row once, and on a row the two ways undo each other. -/
structure Traversed (s : RowSet) : Prop where
  /-- Moving on from before the first row visits the rows in order and then none. -/
  onward : ∀ more, (s.move .beforeFirst).1.visits .next (s.rows.size + more)
    = s.allRows.map (fun row => ⟨some true, .ok row⟩)
      ++ List.replicate more ⟨some false, .error (.cursorPosition s.rows.size s.rows.size)⟩
  /-- Moving back from after the last row visits the rows in the opposite order and then none. -/
  backward : 0 < s.rows.size → ∀ more,
    (s.move .afterLast).1.visits .previous (s.rows.size + more)
      = s.allRows.reverse.map (fun row => ⟨some false, .ok row⟩)
        ++ List.replicate more ⟨some true, .error (.cursorPosition Cursor.before s.rows.size)⟩
  /-- Moving back once more than there are rows, or more often, leads before the first row. -/
  departed : 0 < s.rows.size → ∀ more,
    ((s.move .afterLast).1.repeated .previous (s.rows.size + 1 + more)).cursor.isBeforeFirst
  /-- On a row, moving on and moving back undo each other, -/
  undone : ∀ i, s.cursor.index = .ok i →
    s.final [.next, .previous] = s ∧ s.final [.previous, .next] = s
  /-- and lead to the neighbours among the rows. -/
  neighbours : ∀ i, s.cursor.index = .ok i →
    (i + 1 < s.rows.size → (s.move .next).1.cursor.index = .ok (i + 1))
      ∧ (0 < i → (s.move .previous).1.cursor.index = .ok (i - 1))

theorem traversed_of_fitting
    (fitting : s.Fitting) (positions : (s.rows.size : Int) ≤ Cursor.greatestPosition) :
  s.Traversed
  := by
  have length : (s.cursor.length : Int) ≤ Cursor.greatestPosition := by
    rw [fitting]
    apply positions
  have last (some_row : 0 < s.rows.size) :
      (s.move .afterLast).1.cursor.position = s.rows.size := by
    rw [← fitting] at some_row
    rw [cursor_move, Cursor.position_move, Cursor.target, if_pos some_row,
      Cursor.limit_eq_length length, fitting]
  constructor
  · have first : (s.move .beforeFirst).1.cursor = .start s.rows.size := by
      rw [← fitting]
      rfl
    apply visits_next (fitting_move fitting .beforeFirst) positions first
  · intro some_row
    apply visits_previous (fitting_move fitting .afterLast) (last some_row)
  · intro some_row more
    have above : Cursor.before ≤ (s.move .afterLast).1.cursor.position := by
      rw [last some_row, Cursor.before]
      omega
    have left : max ((s.rows.size : Int) - (s.rows.size + 1 + more : Nat)) Cursor.before
        = Cursor.before := by
      rw [Cursor.before]
      omega
    rw [repeated_eq, Cursor.repeated_previous above, last some_row, left]
    apply Cursor.isBeforeFirst_beforeFirst
    rw [cursor_move, Cursor.length_move, fitting]
    apply some_row
  · intro i index
    obtain ⟨forth, back⟩ := Cursor.final_next_previous length index
    rw [final_eq, final_eq, forth, back]
    exact ⟨rfl, rfl⟩
  · intro i index
    rw [← fitting]
    apply Cursor.index_neighbours length index

end RowSet

/-- A row set that a result was read into has the rows of the result in their order.  As no more rows
are stored than there are positions, a walk from either end visits each of them once, wherever the
cursor was moved before, and on a row the two ways undo each other. -/
theorem rows_traversed
    {payload : Element} {held loaded : RowSet}
    (read : (readRowSet collecting payload).outcome held = (.ok (), loaded))
    (positions : (loaded.rows.size : Int) ≤ Cursor.greatestPosition) (moves : List Move) :
  (loaded.final moves).Traversed
    ∧ (loaded.final moves).allRows = loaded.allRows
    ∧ ∃ root, payload.findChild? rowsetNs "root" = some root
      ∧ loaded.allRows = (rowElements root).map (Row.mk (readColumns root))
  := by
  cases found : payload.findChild? rowsetNs "root" with
  | none =>
    rw [readRowSet, found] at read
    cases read
  | some root =>
    rw [outcome_readRowSet_collecting found] at read
    cases read
    refine ⟨?traversed, ?rows, root, rfl, RowSet.allRows_ofRows _ _⟩
    case traversed =>
      apply RowSet.traversed_of_fitting
      · apply RowSet.fitting_final
        apply List.size_toArray.symm
      · rw [RowSet.final_eq]
        apply positions
    case rows =>
      rw [RowSet.final_eq]
      rfl

/-- A payload of two rows, the first of which stands behind an element that is no row. -/
def twoRows : Element :=
  ⟨⟨"return", some xmlaNs, "return", []⟩, .ofNodes [.element ⟨⟨"root", some rowsetNs, "root", []⟩,
    .ofNodes [.element ⟨⟨"note", none, "note", []⟩, .ofNodes []⟩, .element (rowNumbered "1"),
      .element (rowNumbered "2")]⟩]⟩

/-- What is read of `twoRows`. -/
def twoRowsRead : RowSet :=
  .ofRows [] [rowNumbered "1", rowNumbered "2"]

theorem rows_traversed_twoRows :
  ((readRowSet collecting twoRows).outcome .empty = (.ok (), twoRowsRead)
      ∧ (twoRowsRead.rows.size : Int) ≤ Cursor.greatestPosition)
    ∧ (twoRowsRead.final [.relative 7]).Traversed
    ∧ ((twoRowsRead.final [.relative 7]).move .afterLast).1.visits .previous 4
      = [⟨some false, .ok ⟨[], rowNumbered "2"⟩⟩, ⟨some false, .ok ⟨[], rowNumbered "1"⟩⟩,
        ⟨some true, .error (.cursorPosition (-1) 2)⟩, ⟨some true, .error (.cursorPosition (-1) 2)⟩]
  := by
  have read : (readRowSet collecting twoRows).outcome .empty = (.ok (), twoRowsRead) := rfl
  have positions : (twoRowsRead.rows.size : Int) ≤ Cursor.greatestPosition := by decide
  have traversed := (rows_traversed read positions [.relative 7]).1
  exact ⟨⟨read, positions⟩, traversed, traversed.backward (by decide) 2⟩

end OlapClient.Table
