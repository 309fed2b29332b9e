import Mathlib.Tactic.Common
import OlapClient.Proofs.Cube.Delivery
import OlapClient.Proofs.Session.Query
import OlapClient.Proofs.Table.Delivery

/-!
# The calls of a caller's handler

Three of the seven queries pass their result to a handler of the caller.  With `logging`, that
handler writes down its calls and how each ended; `run_unlogged` says that this changes nothing else
of a query, so its `deliveries` are the calls that the query itself makes.
-/

namespace OlapClient.Session

open OlapClient.Markup
open OlapClient.Protocol

variable {τ σ : Type}

/-- A call of a handler of the caller, of either kind of result. -/
abbrev Delivery : Type :=
  Called Table.RowEvent ⊕ Called Cube.CellEvent

/-- How a call ended. -/
def Delivery.result : Delivery → Except Failure Unit
  | .inl made => made.result
  | .inr made => made.result

theorem Delivery.exists_inl_iff
    (calls : List (Called Table.RowEvent)) {result : Except Failure Unit} :
  (∃ made ∈ calls.map .inl, Delivery.result made = result) ↔ ∃ made ∈ calls, made.result = result
  := by simp [Delivery.result]

theorem Delivery.exists_inr_iff
    (calls : List (Called Cube.CellEvent)) {result : Except Failure Unit} :
  (∃ made ∈ calls.map .inr, Delivery.result made = result) ↔ ∃ made ∈ calls, made.result = result
  := by simp [Delivery.result]

/-- What is read into a handler that follows another is read into the other, seen through the
view. -/
theorem digest_follows
    {ω : Type} {view : σ → ω} {read : Element → Handling σ Unit} {read' : Element → Handling ω Unit}
    (h : ∀ payload, Follows view (read payload) (read' payload)) (start : σ)
    (asked : Except Mishap Element) :
  digest read' (view start) asked
    = ((digest read start asked).1, view (digest read start asked).2)
  := by
  cases asked with
  | error mishap => rfl
  | ok payload => rw [digest, (h payload).ending_eq start, digest]

namespace Query

/-- The query with its handler, where the caller gave one, writing down its calls. -/
def logging : Query → Query
  | cellsWith statement handler start => cellsWith statement handler.logging (start, [])
  | rowsWith statement handler start => rowsWith statement handler.logging (start, [])
  | listWith requestType restrictions handler start =>
    listWith requestType restrictions handler.logging (start, [])
  | cells statement => cells statement
  | rows statement => rows statement
  | first statement => first statement
  | list requestType restrictions => list requestType restrictions

/-- What a query gives, without the calls that were written down. -/
def unlogged : (query : Query) → Except Mishap query.logging.Result → Except Mishap query.Result
  | cellsWith _ _ _, answer => answer.map fun result => (result.1, result.2.1)
  | rowsWith _ _ _, answer => answer.map fun result => (result.1, result.2.1)
  | listWith _ _ _ _, answer => answer.map fun result => (result.1, result.2.1)
  | cells _, answer => answer
  | rows _, answer => answer
  | first _, answer => answer
  | list _ _, answer => answer

/-- The calls that were written down. -/
def deliveries : (query : Query) → Except Mishap query.logging.Result → List Delivery
  | cellsWith _ _ _, .ok result => result.2.2.map .inr
  | rowsWith _ _ _, .ok result => result.2.2.map .inl
  | listWith _ _ _ _, .ok result => result.2.2.map .inl
  | _, _ => []

theorem request_logging (query : Query) :
  query.logging.request = query.request
  := by cases query <;> rfl

/-- That its handler writes down its calls changes nothing else of a query. -/
theorem run_unlogged (client : Client τ) (query : Query) (link : Link τ) :
  ending (query.run client) link
    = (query.unlogged (ending (query.logging.run client) link).1,
      (ending (query.logging.run client) link).2)
  := by
  rw [run_eq, run_eq]
  cases query with
  | cellsWith statement handler start =>
    have same := digest_follows (Cube.follows_readCellSet_logging handler) (start, [])
    simp only [conclude, unlogged, logging, request, Except.map, same]
  | rowsWith statement handler start =>
    have same := digest_follows (Table.follows_readRowSet_logging handler) (start, [])
    simp only [conclude, unlogged, logging, request, Except.map, same]
  | listWith requestType restrictions handler start =>
    have same := digest_follows (Table.follows_readRowSet_logging handler) (start, [])
    simp only [conclude, unlogged, logging, request, Except.map, same]
  | cells | rows | first | list => rfl

end Query

end OlapClient.Session
