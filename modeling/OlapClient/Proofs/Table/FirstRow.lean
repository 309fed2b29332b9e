import Mathlib.Tactic.Common
import OlapClient.Proofs.Table.Delivery

/-!
# Handing on the first row

A handler of the first row hands on the columns, one row and the end.  What the handler within sees
of a read is a table without the rows that are not handed on: `ending_passTable_firstRow` says so
for a handler that has handed on a row before or not, and `firstRow_reads_truncated` says of a new
one that its read is the direct read of which every row after the first is left out, up to the
failure that ends it.
-/

namespace OlapClient.Table

open OlapClient.Markup
open OlapClient.Protocol

variable {σ : Type}

/-! ### The handler within -/

theorem FirstRow.ending_within (action : Handling σ Unit) (s : FirstRow σ) :
  ending (FirstRow.within action) s
    = ((ending action s.inner).1, ⟨(ending action s.inner).2, s.found⟩)
  := by
  cases done : action s.inner <;> simp [ending, FirstRow.within, onPart, done]

/-- The rows that are handed on, where `found` says that a row has been handed on before. -/
def handedOn (found : Bool) (rows : List Element) : List Element :=
  if found then [] else rows.take 1

theorem ending_onRow_firstRow
    (handler : RowHandler σ) (columns : List Column) (row : Element) (s : σ) :
  ending ((firstRow handler).onRow columns row) ⟨s, false⟩
    = ((ending (handler.onRow columns row) s).1, ⟨(ending (handler.onRow columns row) s).2, true⟩)
  := by
  have marked : ending ((firstRow handler).onRow columns row) ⟨s, false⟩
      = ending (FirstRow.within (handler.onRow columns row)) ⟨s, true⟩ := rfl
  rw [marked, FirstRow.ending_within]

/-- Once a row has been handed on, rows leave no trace. -/
theorem ending_forM_onRow_found
    (handler : RowHandler σ) (columns : List Column) (rows : List Element) (s : σ) :
  ending (rows.forM ((firstRow handler).onRow columns)) ⟨s, true⟩ = (.ok (), ⟨s, true⟩)
  := by
  induction rows with
  | nil => rfl
  | cons row rows ih =>
    rw [← ih]
    rfl

theorem ending_forM_onRow_firstRow
    (handler : RowHandler σ) (columns : List Column) (rows : List Element) (s : σ) (found : Bool) :
  ending (rows.forM ((firstRow handler).onRow columns)) ⟨s, found⟩
    = ((ending ((handedOn found rows).forM (handler.onRow columns)) s).1,
      ⟨(ending ((handedOn found rows).forM (handler.onRow columns)) s).2,
        found || !rows.isEmpty⟩)
  := by
  cases found with
  | true => apply ending_forM_onRow_found
  | false =>
    cases rows with
    | nil => rfl
    | cons row rows =>
      have one : (handedOn false (row :: rows)).forM (handler.onRow columns)
          = handler.onRow columns row := bind_pure (handler.onRow columns row)
      have first : (row :: rows).forM ((firstRow handler).onRow columns)
          = (firstRow handler).onRow columns row
            >>= fun _ => rows.forM ((firstRow handler).onRow columns) := rfl
      rw [one, first, ending_bind, ending_onRow_firstRow]
      cases (ending (handler.onRow columns row) s).1 with
      | error failure => rfl
      | ok _ => apply ending_forM_onRow_found

/-- A handler of the first row passes a table on to the handler within without the rows that are not
handed on, and remembers that it has come to a row. -/
theorem ending_passTable_firstRow
    (handler : RowHandler σ) (columns : List Column) (rows : List Element) (s : σ) (found : Bool) :
  ending (passTable (firstRow handler) columns rows) ⟨s, found⟩
    = ((ending (passTable handler columns (handedOn found rows)) s).1,
      ⟨(ending (passTable handler columns (handedOn found rows)) s).2,
        found || ((ending (handler.onColumns columns) s).1.isOk && !rows.isEmpty)⟩)
  := by
  have announced : ending ((firstRow handler).onColumns columns) ⟨s, found⟩
      = ending (FirstRow.within (handler.onColumns columns)) ⟨s, found⟩ := rfl
  have finished (t : FirstRow σ) : ending (firstRow handler).onFinish t
      = ending (FirstRow.within handler.onFinish) t := rfl
  rw [passTable, passTable, ending_bind, ending_bind, announced, FirstRow.ending_within]
  rcases ending (handler.onColumns columns) s with ⟨failure | _, s'⟩
  · simp [Except.isOk, Except.toBool]
  · simp only [ending_bind, ending_forM_onRow_firstRow]
    rcases ending ((handedOn found rows).forM (handler.onRow columns)) s' with ⟨failure | _, s''⟩
    · simp [Except.isOk, Except.toBool]
    · simp [finished, FirstRow.ending_within, Except.isOk, Except.toBool]

/-! ### The calls of the handler within -/

/-- The state of a handler of the first row, with another state within. -/
def FirstRow.map {τ : Type} (view : σ → τ) (s : FirstRow σ) : FirstRow τ :=
  ⟨view s.inner, s.found⟩

theorem follows_within
    {τ : Type} {view : σ → τ} {action : Handling σ Unit} {other : Handling τ Unit}
    (follows : Follows view action other) :
  Follows (FirstRow.map view) (FirstRow.within action) (FirstRow.within other)
  := by
  apply Follows.onPart follows
  · intro s
    rfl
  · intro s inner
    rfl

/-- Handlers of the first row follow one another as the handlers within do. -/
theorem follows_onRow_firstRow
    {τ : Type} {view : σ → τ} {handler : RowHandler σ} {other : RowHandler τ}
    {columns : List Column} {row : Element}
    (follows : Follows view (handler.onRow columns row) (other.onRow columns row)) :
  Follows (FirstRow.map view) ((firstRow handler).onRow columns row)
    ((firstRow other).onRow columns row)
  := by
  rintro ⟨s, found⟩
  cases found with
  | true => rfl
  | false => apply follows_within follows ⟨s, true⟩

/-- The log of the calls of the handler within changes nothing else of a read. -/
theorem follows_readRowSet_firstRow (handler : RowHandler σ) (payload : Element) :
  Follows (FirstRow.map Prod.fst) (readRowSet (firstRow handler.logging) payload)
    (readRowSet (firstRow handler) payload)
  := by
  apply follows_readRowSet_of_follows
  · intro columns
    apply follows_within (Follows.logging _ _)
  · intro columns row
    apply follows_onRow_firstRow (Follows.logging _ _)
  · apply follows_within (Follows.logging _ _)

/-- The calls that a read through a new handler of the first row makes of the handler within. -/
def RowHandler.callsWithin (handler : RowHandler σ) (payload : Element) (s : σ) :
    List (Called RowEvent) :=
  (ending (readRowSet (firstRow handler.logging) payload) ⟨(s, []), false⟩).2.inner.2

theorem ending_readRowSet_firstRow
    {payload root : Element} (found : payload.findChild? rowsetNs "root" = some root)
    (handler : RowHandler σ) (s : σ) (before : Bool) :
  ending (readRowSet (firstRow handler) payload) ⟨s, before⟩
    = ((ending (passTable handler (readColumns root) (handedOn before (rowElements root))) s).1,
      ⟨(ending (passTable handler (readColumns root) (handedOn before (rowElements root))) s).2,
        before || ((ending (handler.onColumns (readColumns root)) s).1.isOk
          && !(rowElements root).isEmpty)⟩)
  := by
  rw [← ending_passTable_firstRow, readRowSet, found]
  rfl

/-- What a read of a result through a new handler of the first row is like: the result and the state
that it ends with, and the calls that it makes of the handler within. -/
structure Truncates (handler : RowHandler σ) (root : Element) (s : σ)
    (read : Except Failure Unit × FirstRow σ) (calls : List (Called RowEvent)) : Prop where
  /-- The calls are due for the columns, for the first row if there is one, and for the end.  They
  are made in this order up to the first that fails, and the read ends as the last of them. -/
  calls : Fulfils ((callsFor (readColumns root) ((rowElements root).take 1)).map .ok) calls read.1
  /-- The read ends as the direct read does without the rows after the first, -/
  direct : (read.1, read.2.inner)
    = ending (passTable handler (readColumns root) ((rowElements root).take 1)) s
  /-- and as the direct read of any result that has these columns and no row but the first. -/
  document : ∀ payload' root', payload'.findChild? rowsetNs "root" = some root' →
    readColumns root' = readColumns root → rowElements root' = (rowElements root).take 1 →
      (read.1, read.2.inner) = ending (readRowSet handler payload') s
  /-- A row has been found when the columns were accepted and there is a row. -/
  found : read.2.found = true
    ↔ (∃ s', handler.onColumns (readColumns root) s = .ok () s') ∧ rowElements root ≠ []

theorem isOk_ending_iff (action : Handling σ Unit) (s : σ) :
  (ending action s).1.isOk ↔ ∃ s', action s = .ok () s'
  := by
  cases done : action s <;> simp [ending, done, Except.isOk, Except.toBool]

/-- A read of a result through a new handler of the first row is the direct read of which every row
after the first is left out: to the handler within, in what comes of it, and in the state that it
leaves.  That the calls are written down changes nothing else. -/
theorem firstRow_reads_truncated
    {payload root : Element} (found : payload.findChild? rowsetNs "root" = some root)
    (handler : RowHandler σ) (s : σ) :
  Follows (FirstRow.map Prod.fst) (readRowSet (firstRow handler.logging) payload)
      (readRowSet (firstRow handler) payload)
    ∧ Truncates handler root s (ending (readRowSet (firstRow handler) payload) ⟨s, false⟩)
      (handler.callsWithin payload s)
  := by
  use follows_readRowSet_firstRow handler payload
  rw [ending_readRowSet_firstRow found]
  constructor
  · rw [RowHandler.callsWithin, ending_readRowSet_firstRow found, passTable_eq_carryOut,
      passTable_eq_carryOut, RowHandler.call_logging]
    apply fulfils_logged
  · rfl
  · intro payload' root' found' columns rows
    rw [readRowSet, found']
    simp only [readRoot_eq_passTable, columns, rows]
    rfl
  · simp [isOk_ending_iff]

/-- A handler that counts its calls and accepts no row. -/
def declining : RowHandler Nat where
  onColumns _ := modify (· + 1)
  onRow _ _ := do
    modify (· + 1)
    throw (.badUsage (.stopped "no rows"))
  onFinish := modify (· + 1)

/-- The first of two rows is declined: the read ends there, after two calls, as the direct read of
the first row alone does. -/
theorem firstRow_reads_truncated_declining :
  (numberedPayload ["1", "2"]).findChild? rowsetNs "root" = some (numberedRoot ["1", "2"])
    ∧ Truncates declining (numberedRoot ["1", "2"]) 0
      (.error (.badUsage (.stopped "no rows")), ⟨2, true⟩)
      [⟨.columns [], .ok ()⟩,
        ⟨.row [] (rowNumbered "1"), .error (.badUsage (.stopped "no rows"))⟩]
    ∧ ending (readRowSet declining (numberedPayload ["1"])) 0
      = (.error (.badUsage (.stopped "no rows")), 2)
  := by
  have found := findChild?_numberedPayload ["1", "2"]
  have truncates := (firstRow_reads_truncated found declining 0).2
  exact ⟨found, truncates, (truncates.document (numberedPayload ["1"]) _ rfl rfl rfl).symm⟩

end OlapClient.Table
