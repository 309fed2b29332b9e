import OlapClient.Proofs.Table.Walk

/-!
# Ways to a row

A cursor comes to a row by steps from before the first row, plain ones or relative movements of one
row, and by one absolute movement, which counts from either end.  `moves_agree` says that these ways
lead to the same place with the same answer, over every number of rows and also past their end.
`checkedTarget_eq` says that in 64-bit integers they lead there as well.
-/

namespace OlapClient.Table.Cursor

open OlapClient.Number

@[simp]
theorem position_movedTo (c : Cursor) (position : Int) :
  (c.movedTo position).position = position
  := rfl

@[simp]
theorem limit_movedTo (c : Cursor) (position : Int) :
  (c.movedTo position).limit = c.limit
  := rfl

theorem greatestPosition_eq :
  greatestPosition = 9223372036854775807
  := rfl

/-- A cursor after a movement that is made a number of times. -/
def repeated (c : Cursor) (m : Move) (times : Nat) : Cursor :=
  c.final (List.replicate times m)

theorem final_append (c : Cursor) (moves later : List Move) :
  c.final (moves ++ later) = (c.final moves).final later
  := by
  induction moves generalizing c with
  | nil => rfl
  | cons m moves ih => apply ih

theorem repeated_succ (c : Cursor) (m : Move) (times : Nat) :
  c.repeated m (times + 1) = ((c.repeated m times).move m).1
  := by
  rw [repeated, List.replicate_succ', final_append]
  rfl

/-! ### Answers -/

/-- The answer of a movement is whether it came to a row. -/
def Lands (c : Cursor) (m : Move) : Prop :=
  c.move m = move.answered (c.move m).1.landed

/-- Movements that lead to the same place and answer whether it is a row answer the same. -/
theorem Lands.agree
    {c d : Cursor} {m n : Move} (lands : c.Lands m) (lands' : d.Lands n)
    (same : (c.move m).1 = (d.move n).1) :
  c.move m = d.move n
  := by
  rw [lands, lands', same]

theorem lands_absolute (c : Cursor) (row : Int) :
  c.Lands (.absolute row)
  := rfl

theorem lands_relative (c : Cursor) (delta : Int) :
  c.Lands (.relative delta)
  := rfl

/-- A position that is not before the first row is on a row unless it is at the end. -/
theorem isValid_movedTo (c : Cursor) {position : Int} (above : 0 ≤ position) :
  (c.movedTo position).isValid = decide (position < c.limit)
  := by
  rw [Bool.eq_iff_iff, isValid_iff, decide_eq_true_iff]
  simp [above]

/-- Moving on answers whether the end has not come.  That is whether it came to a row, where the
cursor did not start below the position before the first row. -/
theorem lands_next {c : Cursor} (above : before ≤ c.position) :
  c.Lands .next
  := by
  have low := c.zero_le_limit
  rw [before] at above
  have onward : 0 ≤ c.target .next := by
    rw [target]
    split <;> omega
  have moved : c.next.1 = c.movedTo (c.target .next) := move_eq c .next
  have answer : c.next.2 = decide (c.next.1.position < c.limit) := by
    rw [Bool.eq_iff_iff, decide_eq_true_iff]
    simp [next]
  rw [Lands, move_eq, landed, isValid_movedTo c onward, move, move.answered, answer, moved]
  rfl

/-! ### Steps from before the first row -/

section Steps

variable (length : Nat)

/-- A step leads on by one position, at most to after the last row. -/
theorem repeated_next (times : Nat) :
  (start length).repeated .next times
    = (start length).movedTo (min ((times : Int) - 1) (start length).limit)
  := by
  have low := (start length).zero_le_limit
  induction times with
  | zero =>
    have least : min (((0 : Nat) : Int) - 1) (start length).limit = before := by
      rw [before]
      omega
    rw [least]
    rfl
  | succ times ih =>
    have onward : ((start length).repeated .next times).target .next
        = min (((times + 1 : Nat) : Int) - 1) (start length).limit := by
      rw [ih, target, position_movedTo, limit_movedTo]
      split <;> omega
    rw [repeated_succ, move_eq, onward, ih]
    rfl

/-- A relative movement of one row leads on by one position, also behind the position after the last
row, as far as there are positions. -/
theorem repeated_relative (times : Nat) :
  (start length).repeated (.relative 1) times
    = (start length).movedTo (min ((times : Int) - 1) greatestPosition)
  := by
  induction times with
  | zero => rfl
  | succ times ih =>
    have onward : ((start length).repeated (.relative 1) times).target (.relative 1)
        = min (((times + 1 : Nat) : Int) - 1) greatestPosition := by
      rw [ih, target_relative, position_movedTo, IntKind.saturated_int64, greatestPosition_eq]
      omega
    rw [repeated_succ, move_eq, onward, ih]
    rfl

/-- From before the first row, a step answers whether there was one more row. -/
theorem lands_repeated_next (times : Nat) :
  ((start length).repeated .next times).Lands .next
  := by
  have low := (start length).zero_le_limit
  apply lands_next
  rw [repeated_next, position_movedTo, before]
  omega

variable {length}

/-- Up to the position after the last row, relative movements of one row are steps. -/
theorem repeated_relative_eq_next
    (room : (length : Int) < greatestPosition) {times : Nat} (within : times ≤ length + 1) :
  (start length).repeated (.relative 1) times = (start length).repeated .next times
  := by
  have limit : (start length).limit = length := limit_eq_length (Int.le_of_lt room)
  have place : min ((times : Int) - 1) greatestPosition = min ((times : Int) - 1) length := by
    omega
  rw [repeated_relative, repeated_next, limit, place]

/-- A relative movement of one row up to after the last row answers as a step does. -/
theorem move_relative_eq_next
    (room : (length : Int) < greatestPosition) {times : Nat} (within : times ≤ length) :
  ((start length).repeated (.relative 1) times).move (.relative 1)
    = ((start length).repeated .next times).move .next
  := by
  apply Lands.agree (lands_relative _ 1) (lands_repeated_next length times)
  rw [← repeated_succ, ← repeated_succ]
  apply repeated_relative_eq_next room
  omega

/-- The step after some steps answers whether there are more rows than these steps came to. -/
theorem answer_next (positions : (length : Int) ≤ greatestPosition) (times : Nat) :
  (((start length).repeated .next times).move .next).2 = some (decide (times < length))
  := by
  have limit : (start length).limit = length := limit_eq_length positions
  have place : 0 ≤ min (((times + 1 : Nat) : Int) - 1) (start length).limit := by
    omega
  rw [lands_repeated_next, ← repeated_succ, repeated_next, move.answered, landed,
    isValid_movedTo _ place, Option.some.injEq, decide_eq_decide]
  omega

end Steps

/-! ### Absolute movements -/

/-- An absolute movement to a row, counted from one, leads where as many steps lead. -/
theorem move_absolute_position (c : Cursor) (times : Nat) :
  (c.move (.absolute times)).1 = (start c.length).repeated .next times
  := by
  have forward : ¬ (times : Int) < 0 := by omega
  rw [move_eq, target, if_neg forward, repeated_next]
  rfl

/-- An absolute movement to a row, counted from one, answers as the last of as many steps. -/
theorem move_absolute_eq_next (c : Cursor) (times : Nat) :
  c.move (.absolute (times + 1 : Nat)) = ((start c.length).repeated .next times).move .next
  := by
  apply Lands.agree (lands_absolute c _) (lands_repeated_next c.length times)
  rw [move_absolute_position, repeated_succ]

/-- An absolute movement that counts from the end leads where the one does that counts the same row
from the beginning. -/
theorem move_absolute_neg
    {c : Cursor} (positions : (c.length : Int) ≤ greatestPosition)
    {m : Nat} (positive : 1 ≤ m) (within : m ≤ c.length) :
  c.move (.absolute (-m)) = c.move (.absolute (c.length + 1 - m))
  := by
  have limit := limit_eq_length positions
  have backward : (-m : Int) < 0 := by omega
  have forward : ¬ (c.length + 1 - m : Int) < 0 := by omega
  have place : max (c.limit + (-m : Int)) before = min (c.length + 1 - m - 1 : Int) c.limit := by
    rw [limit, before]
    omega
  apply Lands.agree (lands_absolute c _) (lands_absolute c _)
  rw [move_eq, move_eq, target, target, if_pos backward, if_neg forward, place]

/-- An absolute movement that counts more rows from the end than there are leads before the first
row. -/
theorem move_absolute_before
    {c : Cursor} (positions : (c.length : Int) ≤ greatestPosition)
    {m : Nat} (beyond : c.length < m) :
  c.move (.absolute (-m)) = (c.movedTo before, some false)
  := by
  have limit := limit_eq_length positions
  have backward : (-m : Int) < 0 := by omega
  have place : max (c.limit + (-m : Int)) before = before := by
    rw [limit, before]
    omega
  rw [lands_absolute, move_eq, target, if_pos backward, place]
  rfl

/-- Wherever a cursor stands, an absolute movement to a row, counted from one, leads where as many
steps from before the first row lead, and answers as the last of them.  Over less rows than there
are positions, so do relative movements of one row up to the position after the last row, which the
first of them comes to that does not answer that it is on a row.  Over rows that have positions, an
absolute movement that counts from the end is the one that counts the same row from the beginning,
and leads before the first row if there is no such row. -/
theorem moves_agree (c : Cursor) :
  (∀ times : Nat,
      (c.move (.absolute times)).1 = (start c.length).repeated .next times
      ∧ c.move (.absolute (times + 1 : Nat)) = ((start c.length).repeated .next times).move .next)
    ∧ ((c.length : Int) < greatestPosition →
      (∀ times ≤ c.length + 1,
        (start c.length).repeated (.relative 1) times = (start c.length).repeated .next times)
      ∧ (∀ times ≤ c.length,
        ((start c.length).repeated (.relative 1) times).move (.relative 1)
            = ((start c.length).repeated .next times).move .next
          ∧ (((start c.length).repeated (.relative 1) times).move (.relative 1)).2
            = some (decide (times < c.length)))
      ∧ (start c.length).repeated (.relative 1) (c.length + 1) = c.movedTo c.limit)
    ∧ ((c.length : Int) ≤ greatestPosition → ∀ m : Nat,
      (1 ≤ m → m ≤ c.length →
        c.move (.absolute (-m)) = c.move (.absolute (c.length + 1 - m)))
      ∧ (c.length < m → c.move (.absolute (-m)) = (c.movedTo before, some false)))
  := by
  constructor
  · intro times
    use move_absolute_position c times
    apply move_absolute_eq_next
  constructor
  · intro room
    have positions := Int.le_of_lt room
    constructor
    · intro times within
      apply repeated_relative_eq_next room within
    constructor
    · intro times within
      have same := move_relative_eq_next room within
      use same
      rw [same]
      apply answer_next positions
    · have limit := limit_eq_length positions
      have place : min (((c.length + 1 : Nat) : Int) - 1) greatestPosition = c.limit := by
        omega
      rw [repeated_relative, place]
      rfl
  · intro positions m
    constructor
    · intro positive within
      apply move_absolute_neg positions positive within
    · intro beyond
      apply move_absolute_before positions beyond

/-- A cursor far behind three rows. -/
def farBehind : Cursor :=
  (start 3).final [.relative 7]

theorem moves_agree_farBehind :
  ((farBehind.length : Int) < greatestPosition ∧ 2 ≤ farBehind.length
      ∧ farBehind.length < 9223372036854775808)
    ∧ farBehind.move (.absolute 5) = ((start 3).repeated .next 4).move .next
    ∧ (start 3).repeated (.relative 1) 4 = farBehind.movedTo 3
    ∧ farBehind.move (.absolute (-2)) = farBehind.move (.absolute 2)
    ∧ farBehind.move (.absolute (-9223372036854775808)) = (farBehind.movedTo before, some false)
  := by
  have room : (farBehind.length : Int) < greatestPosition := by decide
  have two : 2 ≤ farBehind.length := by decide
  have beyond : farBehind.length < 9223372036854775808 := by decide
  obtain ⟨absolute, relative, fromEnd⟩ := moves_agree farBehind
  have behind := fromEnd (Int.le_of_lt room)
  exact ⟨⟨room, two, beyond⟩, (absolute 4).2, (relative room).2.2, (behind 2).1 (by decide) two,
    (behind 9223372036854775808).2 beyond⟩

end OlapClient.Table.Cursor
