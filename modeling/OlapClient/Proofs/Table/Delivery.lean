import Mathlib.Tactic.Common
import OlapClient.Proofs.Handling.Callbacks
import OlapClient.Proofs.Handling.Plan
import OlapClient.Proofs.Table.Collecting

/-!
# The calls of a read of a tabular result

A tabular result has a `schedule`: its columns, its rows and its end.  `readRowSet_delivers` says
that a read makes the calls of the schedule in their order, each once and with the same columns, up
to the first call that fails; and that a payload without a result is refused before any call.
-/

namespace OlapClient.Table

open OlapClient.Markup
open OlapClient.Protocol

variable {σ : Type}

namespace RowHandler

/-- The action of a handler that a call calls. -/
def call (handler : RowHandler σ) : RowEvent → Handling σ Unit
  | .columns columns => handler.onColumns columns
  | .row columns row => handler.onRow columns row
  | .finish => handler.onFinish

/-- A handler that writes down its calls, earliest first, with how each ended. -/
def logging (handler : RowHandler σ) : RowHandler (σ × List (Called RowEvent)) where
  onColumns columns := .logging (.columns columns) (handler.onColumns columns)
  onRow columns row := .logging (.row columns row) (handler.onRow columns row)
  onFinish := .logging .finish handler.onFinish

theorem call_logging (handler : RowHandler σ) :
  handler.logging.call = fun event => .logging event (handler.call event)
  := by
  funext event
  cases event <;> rfl

/-- The calls that a read of a payload makes of a handler that begins in a state. -/
def calls (handler : RowHandler σ) (payload : Element) (s : σ) : List (Called RowEvent) :=
  (ending (readRowSet handler.logging payload) (s, [])).2.2

end RowHandler

/-- The calls that are due for a tabular result: one of its columns, one of each row in document
order with the same columns, and one of its end. -/
def schedule (root : Element) : List RowEvent :=
  .columns (readColumns root) :: (rowElements root).map (.row (readColumns root)) ++ [.finish]

/-- The calls that are due for a table. -/
def callsFor (columns : List Column) (rows : List Element) : List RowEvent :=
  .columns columns :: rows.map (.row columns) ++ [.finish]

theorem passTable_eq_carryOut
    (handler : RowHandler σ) (columns : List Column) (rows : List Element) :
  passTable handler columns rows = carryOut handler.call ((callsFor columns rows).map .ok)
  := by
  have calls : rows.forM (handler.onRow columns)
      = carryOut handler.call ((rows.map (.row columns)).map .ok) := by
    rw [List.map_map]
    apply carryOut_map
    intro row
    apply (attempt_ok handler.call (.row columns row)).symm
  rw [callsFor, List.map_append, List.map_cons, List.map_singleton, carryOut_enclosed, ← calls]
  rfl

/-- The log of calls changes nothing else of a read. -/
theorem follows_readRowSet_logging (handler : RowHandler σ) (payload : Element) :
  Follows Prod.fst (readRowSet handler.logging payload) (readRowSet handler payload)
  := by
  apply follows_readRowSet_of_follows
  · intro columns
    apply Follows.logging
  · intro columns row
    apply Follows.logging
  · apply Follows.logging

/-- A payload without a result is refused before anything is done. -/
theorem outcome_readRowSet_of_none
    {payload : Element} (lacks : payload.findChild? rowsetNs "root" = none)
    (handler : RowHandler σ) (s : σ) :
  (readRowSet handler payload).outcome s = (.error (.malformed .noRowsetRoot), s)
  := by
  rw [readRowSet, lacks]
  rfl

/-- A payload without a result is refused before any call. -/
theorem RowHandler.calls_of_none
    {payload : Element} (lacks : payload.findChild? rowsetNs "root" = none)
    (handler : RowHandler σ) (s : σ) :
  handler.calls payload s = []
  := by
  rw [calls, readRowSet, lacks]
  rfl

/-- The calls of a read of a result fulfil its schedule. -/
theorem fulfils_schedule
    {payload root : Element} (found : payload.findChild? rowsetNs "root" = some root)
    (handler : RowHandler σ) (s : σ) :
  Fulfils ((schedule root).map .ok) (handler.calls payload s)
    (ending (readRowSet handler payload) s).1
  := by
  simp only [RowHandler.calls, readRowSet, found, readRoot_eq_passTable, passTable_eq_carryOut,
    RowHandler.call_logging]
  apply fulfils_logged

/-- A read of a tabular result fails with what does not call the payload malformed exactly if one of
its calls does. -/
theorem ending_readRowSet_eq_error_iff
    (handler : RowHandler σ) (payload : Element) (s : σ) {failure : Failure}
    (other : ¬ IsMalformed failure) :
  (ending (readRowSet handler payload) s).1 = .error failure
    ↔ ∃ made ∈ handler.calls payload s, made.result = .error failure
  := by
  cases found : payload.findChild? rowsetNs "root" with
  | none =>
    rw [← outcome_eq_ending, outcome_readRowSet_of_none found, handler.calls_of_none found]
    constructor
    · rintro ⟨⟩
      apply absurd ⟨_, rfl⟩ other
    · rintro ⟨made, mem, -⟩
      cases mem
  | some root =>
    apply (fulfils_schedule found handler s).eq_error_iff
    simp

/-- What the calls of a read of a tabular result are like, and how the read ends. -/
structure Delivered (root : Element) (calls : List (Called RowEvent))
    (result : Except Failure Unit) : Prop where
  /-- The calls are the first ones of the schedule: none is left out, repeated or moved. -/
  scheduled : calls.map Called.event <+: schedule root
  /-- The rows of the schedule are children of the root in document order, each whole. -/
  rows : (rowElements root).Sublist root.children
  /-- No call follows one that failed. -/
  earlier : ∀ made ∈ calls.dropLast, made.result = .ok ()
  /-- There is a call, and the read ends as the last one does. -/
  last : calls.getLast?.map Called.result = some result
  /-- The call of the end is made exactly when every call before it succeeds. -/
  finish : RowEvent.finish ∈ calls.map Called.event
    ↔ ∀ made ∈ calls, made.event ≠ .finish → made.result = .ok ()

theorem delivered_of_fulfils
    {root : Element} {calls : List (Called RowEvent)} {result : Except Failure Unit}
    (h : Fulfils ((schedule root).map .ok) calls result) :
  Delivered root calls result
  := by
  constructor
  · apply h.isPrefix_of_readable
  · apply List.filter_sublist
  · apply h.succeeded_of_mem_dropLast
  · apply h.last_eq (readable_map_ok _)
    simp [schedule]
  · apply h.mem_iff_of_concat
    simp

/-- A read of a payload either finds no result and fails without a call, or makes the calls of the
result's schedule, in order, up to the first that fails, and ends as the last of them.  That the
calls are written down changes nothing else. -/
theorem readRowSet_delivers (handler : RowHandler σ) (payload : Element) (s : σ) :
  Follows Prod.fst (readRowSet handler.logging payload) (readRowSet handler payload)
    ∧ ((payload.findChild? rowsetNs "root" = none
        ∧ ending (readRowSet handler payload) s = (.error (.malformed .noRowsetRoot), s)
        ∧ handler.calls payload s = [])
      ∨ ∃ root, payload.findChild? rowsetNs "root" = some root
        ∧ Delivered root (handler.calls payload s) (ending (readRowSet handler payload) s).1)
  := by
  use follows_readRowSet_logging handler payload
  cases found : payload.findChild? rowsetNs "root" with
  | none =>
    left
    refine ⟨rfl, ?refused, handler.calls_of_none found s⟩
    rw [← outcome_eq_ending, outcome_readRowSet_of_none found]
  | some root =>
    right
    use root, rfl
    apply delivered_of_fulfils (fulfils_schedule found handler s)

end OlapClient.Table
