import OlapClient.Proofs.Table.Reaching

/-!
# Readings of a cursor

A cursor says in three ways whether it is on a row: `isValid` compares its position with the position
after the last row, `index` compares it with the number of rows, and `row` follows `index`.  The
position after the last row is the number of rows, unless there are more rows than positions.
`readings_agree_iff` says that a cursor over so many rows is after the last row and yet on a row where
it comes to the greatest position, and that the readings agree everywhere else.
-/

namespace OlapClient.Table.Cursor

open OlapClient.Number

variable {c : Cursor}

/-! ### Numbers of rows -/

/-- On a row, the number of the row is one more than its index and than the position; off the rows
there is no index and the number is zero. -/
structure Located (c : Cursor) : Prop where
  row : (∃ i, c.index = .ok i) ↔ c.row ≠ 0
  place : ∀ i, c.index = .ok i → c.row = i + 1 ∧ (c.row : Int) = c.position + 1 ∧ c.row ≤ c.length

theorem row_of_index {i : Nat} (index : c.index = .ok i) :
  c.row = i + 1
  := by
  rw [row, index]

theorem located (c : Cursor) :
  c.Located
  := by
  constructor
  · constructor
    · rintro ⟨i, index⟩
      rw [row_of_index index]
      apply Nat.succ_ne_zero
    · intro some_row
      cases index : c.index with
      | ok i => use i
      | error failure =>
        rw [row, index] at some_row
        contradiction
  · intro i index
    obtain ⟨place, below⟩ := index_eq_ok_iff.mp index
    rw [row_of_index index]
    omega

/-! ### The end of the positions -/

/-- The cursor is on a row exactly when it has the index of one, and after the last row it has
none. -/
structure Agrees (c : Cursor) : Prop where
  valid : c.isValid = true ↔ ∃ i, c.index = .ok i
  after : c.isAfterLast = true → ∀ i, c.index ≠ .ok i

/-- The cursor is at the greatest position, and there are rows further on. -/
def Overrun (c : Cursor) : Prop :=
  c.position = greatestPosition ∧ greatestPosition < c.length

theorem exists_index_iff :
  (∃ i, c.index = .ok i) ↔ 0 ≤ c.position ∧ c.position < c.length
  := by
  constructor
  · rintro ⟨i, index⟩
    obtain ⟨place, below⟩ := index_eq_ok_iff.mp index
    omega
  · rintro ⟨some_place, below⟩
    use c.position.toNat
    apply index_eq_ok_iff.mpr
    omega

theorem position_of_isAfterLast (after : c.isAfterLast = true) :
  c.position = c.limit
  := by
  rw [isAfterLast, Bool.and_eq_true, beq_iff_eq] at after
  apply after.2

theorem limit_eq_of_scarce (scarce : greatestPosition < c.length) :
  c.limit = greatestPosition
  := Int.min_eq_right (Int.le_of_lt scarce)

/-- A position below the number of rows that is not below the position after the last row is the
greatest one. -/
theorem overrun_of_limit_le
    (held : c.Held) (ended : c.limit ≤ c.position) (below : c.position < c.length) :
  c.Overrun
  := by
  rw [held_iff] at held
  have scarce : greatestPosition < c.length := by
    by_contra positions
    rw [limit_eq_length (Int.not_lt.mp positions)] at ended
    omega
  rw [limit_eq_of_scarce scarce] at ended
  rw [greatestPosition_eq] at ended
  constructor
  · rw [greatestPosition_eq]
    omega
  · apply scarce

theorem agrees_iff (held : c.Held) :
  c.Agrees ↔ ¬ c.Overrun
  := by
  constructor
  · rintro ⟨valid, -⟩ ⟨place, scarce⟩
    have index : ∃ i, c.index = .ok i := by
      rw [exists_index_iff, place]
      exact ⟨by decide, scarce⟩
    have below := (isValid_iff.mp (valid.mpr index)).2
    rw [limit_eq_of_scarce scarce, place] at below
    apply Int.lt_irrefl _ below
  · intro within
    constructor
    · rw [isValid_iff, exists_index_iff]
      constructor
      · rintro ⟨some_place, below⟩
        exact ⟨some_place, Int.lt_of_lt_of_le below c.limit_le_length⟩
      · rintro ⟨some_place, below⟩
        use some_place
        by_contra ended
        apply within
        apply overrun_of_limit_le held (Int.not_lt.mp ended) below
    · intro after i index
      have below := (exists_index_iff.mp ⟨i, index⟩).2
      apply within
      apply overrun_of_limit_le held (Int.le_of_eq (position_of_isAfterLast after).symm) below

/-! ### Any run -/

/-- Over more rows than there are positions, the position after the last row is the greatest one. -/
theorem overrun_afterLast {length : Nat} (scarce : greatestPosition < length) :
  ((start length).final [.afterLast]).Overrun
  := by
  have some_row : 0 < (start length).length := by
    rw [greatestPosition_eq] at scarce
    dsimp only [start]
    omega
  rw [final, final, move_eq, target, if_pos some_row]
  use limit_eq_of_scarce scarce
  apply scarce

/-- On every run over any number of rows, the index and the number of a row agree, and the cursor
says that it is on a row exactly when it has an index, unless it came to the greatest position with
rows further on.  There are runs that lead there exactly when there are more rows than positions. -/
theorem readings_agree_iff (length : Nat) :
  (∀ moves, ((start length).final moves).Located
      ∧ (((start length).final moves).Agrees ↔ ¬ ((start length).final moves).Overrun))
    ∧ ((∀ moves, ((start length).final moves).Agrees) ↔ (length : Int) ≤ greatestPosition)
  := by
  have agreement (moves : List Move) :
      ((start length).final moves).Agrees ↔ ¬ ((start length).final moves).Overrun :=
    agrees_iff (held_final (held_start length) moves)
  constructor
  · intro moves
    use located _
    apply agreement
  constructor
  · intro agrees
    by_contra scarce
    apply (agreement [.afterLast]).mp (agrees _)
    apply overrun_afterLast (Int.not_le.mp scarce)
  · intro positions moves
    apply (agreement moves).mpr
    rintro ⟨-, scarce⟩
    rw [length_final] at scarce
    apply Int.not_lt.mpr positions scarce

/-- After the last of one row more than there are positions, a cursor is on no row and has the index
of one. -/
theorem afterLast_has_index :
  ¬ ∀ (length : Nat) (moves : List Move), length ≤ maxSize → (∀ m ∈ moves, m.Fits) →
    ((start length).final moves).Agrees
  := by
  intro agree
  have agrees := agree 9223372036854775808 [.afterLast] (by decide) (by decide)
  apply agrees.after (by decide) 9223372036854775807
  rfl

end OlapClient.Table.Cursor
