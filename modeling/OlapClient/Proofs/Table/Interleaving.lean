import OlapClient.Proofs.Table.Delivery
import OlapClient.Proofs.Table.Walk

/-!
# Calls and movements in any order

A row set is filled by calls of a handler and read by movements of its cursor, and nothing keeps the
two apart.  Its cursor counts the rows for itself.  `reads_within_rows` says that after any calls and
movements this is the number of the rows that are stored, so that a look at the current row finds
the row that the cursor is on; that the calls which change the rows send the cursor before the first
of them; and that the columns and the rows are what the calls made them, whatever movements came in
between.
-/

namespace OlapClient.Table.RowSet

/-- What is done to a row set: a call of the handler that collects in it, or a movement of its
cursor. -/
inductive Act where
  | call (event : RowEvent)
  | move (m : Move)
  deriving DecidableEq, Repr

/-- The act is a call. -/
def Act.isCall : Act → Bool
  | .call _ => true
  | .move _ => false

/-- A row set after an act. -/
def act (s : RowSet) : Act → RowSet
  | .call event => ((collecting.call event).outcome s).2
  | .move m => (s.move m).1

/-- A row set after acts, one after the other. -/
def acted (s : RowSet) : List Act → RowSet
  | [] => s
  | a :: acts => (s.act a).acted acts

/-! ### The rows of the cursor -/

/-- The cursor of a row set has as many rows as the row set stores. -/
def Fitting (s : RowSet) : Prop :=
  s.cursor.length = s.rows.size

theorem fitting_move {s : RowSet} (fitting : s.Fitting) (m : Move) :
  (s.move m).1.Fitting
  := by
  rw [cursor_move, Fitting, Cursor.length_move]
  apply fitting

theorem fitting_final {s : RowSet} (fitting : s.Fitting) (moves : List Move) :
  (s.final moves).Fitting
  := by
  rw [final_eq, Fitting, Cursor.length_final]
  apply fitting

theorem fitting_act {s : RowSet} (fitting : s.Fitting) (a : Act) :
  (s.act a).Fitting
  := by
  cases a with
  | move m => apply fitting_move fitting
  | call event =>
    cases event with
    | columns _ | row _ _ => rfl
    | finish => apply fitting

theorem fitting_acted {s : RowSet} (fitting : s.Fitting) (acts : List Act) :
  (s.acted acts).Fitting
  := by
  induction acts generalizing s with
  | nil => apply fitting
  | cons a acts ih => apply ih (fitting_act fitting a)

/-! ### Looking at the current row -/

theorem current_of_index_eq_error {s : RowSet} {failure : Failure}
    (off : s.cursor.index = .error failure) :
  s.current = .error failure
  := by
  rw [current, off]
  rfl

/-- What a look at the current row of a row set finds. -/
inductive Found (s : RowSet) : Prop where
  /-- The cursor is on a row that is stored, and this is the current row. -/
  | row (i : Nat) (stored : i < s.rows.size) (index : s.cursor.index = .ok i)
      (current : s.current = .ok (s.rowOf s.rows[i]))
  /-- The cursor is on no row, and the look is refused. -/
  | refusal (index : s.cursor.index = .error (.cursorPosition s.cursor.position s.rows.size))
      (current : s.current = .error (.cursorPosition s.cursor.position s.rows.size))

theorem found_of_fitting {s : RowSet} (fitting : s.Fitting) :
  s.Found
  := by
  cases index : s.cursor.index with
  | ok i =>
    obtain ⟨place, below⟩ := Cursor.index_eq_ok_iff.mp index
    rw [fitting] at below
    apply Found.row i below index
    apply current_of_position fitting below place
  | error failure =>
    have refused : failure = .cursorPosition s.cursor.position s.rows.size := by
      rw [Cursor.index] at index
      split at index
      · cases index
      · cases index
        rw [fitting]
    rw [refused] at index
    apply Found.refusal index
    apply current_of_index_eq_error index

/-! ### The columns and the rows -/

/-- Two row sets have the same columns and the same rows. -/
def SameTable (s t : RowSet) : Prop :=
  s.columns = t.columns ∧ s.rows = t.rows

theorem sameTable_move (s : RowSet) (m : Move) :
  (s.move m).1.SameTable s
  := by
  rw [cursor_move]
  exact ⟨rfl, rfl⟩

/-- What a call makes of the columns and the rows does not depend on the cursor. -/
theorem SameTable.call {s t : RowSet} (same : s.SameTable t) (event : RowEvent) :
  (s.act (.call event)).SameTable (t.act (.call event))
  := by
  obtain ⟨columns, rows⟩ := same
  cases event with
  | columns _ => exact ⟨rfl, rfl⟩
  | row _ element =>
    use columns
    apply congrArg (·.push element) rows
  | finish => exact ⟨columns, rows⟩

/-- Movements between the calls leave no trace in the columns and the rows. -/
theorem SameTable.acted {s t : RowSet} (same : s.SameTable t) (acts : List Act) :
  (s.acted acts).SameTable (t.acted (acts.filter Act.isCall))
  := by
  induction acts generalizing s t with
  | nil => apply same
  | cons a acts ih =>
    cases a with
    | call event =>
      rw [List.filter_cons_of_pos rfl]
      apply ih (same.call event)
    | move m =>
      rw [List.filter_cons_of_neg (by simp [Act.isCall])]
      obtain ⟨columns, rows⟩ := sameTable_move s m
      apply ih ⟨columns.trans same.1, rows.trans same.2⟩

/-! ### Any run -/

/-- What holds of a row set between two acts. -/
structure Kept (s : RowSet) : Prop where
  fitting : s.Fitting
  found : s.Found
  /-- No call is refused. -/
  accepted : ∀ event, ((collecting.call event).outcome s).1 = .ok ()
  /-- A call that changes the rows sends the cursor before the first of them. -/
  rewound : ∀ event, event ≠ .finish →
    (s.act (.call event)).cursor = .start (s.act (.call event)).rows.size
  /-- A movement changes neither the columns nor the rows. -/
  moved : ∀ m, (s.move m).1.SameTable s

theorem kept_of_fitting {s : RowSet} (fitting : s.Fitting) :
  s.Kept
  := by
  constructor
  · apply fitting
  · apply found_of_fitting fitting
  · intro event
    cases event <;> rfl
  · intro event changes
    cases event with
    | columns _ | row _ _ => rfl
    | finish => contradiction
  · apply sameTable_move

/-- After any calls and movements in any order, the cursor of a row set has as many rows as are
stored, a look at the current row finds the row that the cursor is on or is refused, calls send the
cursor before the first row, and the columns and the rows are those that the calls alone lead to. -/
theorem reads_within_rows (acts : List Act) :
  (empty.acted acts).Kept
    ∧ (empty.acted acts).SameTable (empty.acted (acts.filter Act.isCall))
  := by
  constructor
  · apply kept_of_fitting
    apply fitting_acted
    rfl
  · apply SameTable.acted
    exact ⟨rfl, rfl⟩

end OlapClient.Table.RowSet
