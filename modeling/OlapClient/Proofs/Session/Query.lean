import Mathlib.Tactic.Common
import OlapClient.Proofs.Session.Asking

/-!
# Queries

A `Query` is any of the seven ways to ask over a connection, with its arguments.  Each of them asks
the provider once, and all that it gives is concluded from what came of that question: `run_eq`
says so of every query at once, and what holds of a question holds of a query by it.
-/

namespace OlapClient.Session

open OlapClient.Markup
open OlapClient.Protocol
open OlapClient.Text

variable {τ σ : Type}

/-- What a collecting handler collected, if nothing failed. -/
def collected (result : Except Mishap Unit × σ) : Except Mishap σ :=
  result.1.map fun _ => result.2

/-- The values of the first row, if a row was collected. -/
def firstValues (first : Table.FirstRow Table.RowSet) : Except Mishap (Option (List Value)) :=
  match first.inner.allRows.head? with
  | some row => (row.values.map some).mapError .failed
  | none => .ok none

/-- A query with a handler that begins in a state, as an exchange over the connection alone: it
gives what came of the query and the state in which it left the handler. -/
def handled (query : Exchange (Link τ × σ) Unit) (start : σ) :
    Exchange (Link τ) (Except Mishap Unit × σ) :=
  fun link =>
    match query (link, start) with
    | .ok _ (link, s) => .ok (.ok (), s) link
    | .error mishap (link, s) => .ok (.error mishap, s) link

/-- A way to ask over a connection, with its arguments. -/
inductive Query : Type 1 where
  | cellsWith {σ : Type} (statement : String) (handler : Cube.CellHandler σ) (start : σ)
  | rowsWith {σ : Type} (statement : String) (handler : Table.RowHandler σ) (start : σ)
  | listWith {σ : Type} (requestType : String) (restrictions : List (String × String))
      (handler : Table.RowHandler σ) (start : σ)
  | cells (statement : String)
  | rows (statement : String)
  | first (statement : String)
  | list (requestType : String) (restrictions : List (String × String))

namespace Query

/-- What a query gives unless it fails; with a handler, what came of it and the state that it left
the handler in, also when it fails. -/
def Result : Query → Type
  | @cellsWith σ _ _ _ => Except Mishap Unit × σ
  | @rowsWith σ _ _ _ => Except Mishap Unit × σ
  | @listWith σ _ _ _ _ => Except Mishap Unit × σ
  | cells _ => Cube.CellSet
  | rows _ => Table.RowSet
  | first _ => Option (List Value)
  | list _ _ => Table.RowSet

/-- The request that a query asks with. -/
def request : Query → Request
  | cellsWith statement _ _ => .execute statement .multidimensional
  | rowsWith statement _ _ => .execute statement .tabular
  | listWith requestType restrictions _ _ => .discover requestType restrictions
  | cells statement => .execute statement .multidimensional
  | rows statement => .execute statement .tabular
  | first statement => .execute statement .tabular
  | list requestType restrictions => .discover requestType restrictions

/-- A query by a client. -/
def run (client : Client τ) : (query : Query) → Exchange (Link τ) query.Result
  | cellsWith statement handler start => handled (client.executeCellsWith statement handler) start
  | rowsWith statement handler start => handled (client.executeRowsWith statement handler) start
  | listWith requestType restrictions handler start =>
    handled (client.discoverWith requestType restrictions handler) start
  | cells statement => client.execute statement
  | rows statement => client.executeRows statement
  | first statement => client.executeFirst statement
  | list requestType restrictions => client.discover requestType restrictions

/-! ### A query is concluded from one question -/

/-- What a query gives when its question gives a payload or fails. -/
def conclude : (query : Query) → Except Mishap Element → Except Mishap query.Result
  | cellsWith _ handler start, asked => .ok (digest (Cube.readCellSet handler) start asked)
  | rowsWith _ handler start, asked => .ok (digest (Table.readRowSet handler) start asked)
  | listWith _ _ handler start, asked => .ok (digest (Table.readRowSet handler) start asked)
  | cells _, asked => collected (digest (Cube.readCellSet Cube.collecting) .empty asked)
  | rows _, asked => collected (digest (Table.readRowSet Table.collecting) .empty asked)
  | first _, asked =>
    (collected (digest (Table.readRowSet (Table.firstRow Table.collecting)) ⟨.empty, false⟩
      asked)).bind firstValues
  | list _ _, asked => collected (digest (Table.readRowSet Table.collecting) .empty asked)

theorem ending_handled
    (client : Client τ) (request : Request) (read : Element → Handling σ Unit) (start : σ)
    (link : Link τ) :
  ending (handled (client.feed request read) start) link
    = (.ok (digest read start (ending (client.ask request) link).1),
      (ending (client.ask request) link).2)
  := by
  have parts : ending (handled (client.feed request read) start) link
      = (.ok ((ending (client.feed request read) (link, start)).1,
          (ending (client.feed request read) (link, start)).2.2),
        (ending (client.feed request read) (link, start)).2.1) := by
    cases done : client.feed request read (link, start) <;> simp [ending, handled, done]
  rw [parts, Client.ending_feed]

theorem ending_collect
    (client : Client τ) (request : Request) (read : Element → Handling σ Unit) (start : σ)
    (link : Link τ) :
  ending (Client.collect (client.feed request read) start) link
    = (collected (digest read start (ending (client.ask request) link).1),
      (ending (client.ask request) link).2)
  := by
  have parts : ending (Client.collect (client.feed request read) start) link
      = (collected ((ending (client.feed request read) (link, start)).1,
          (ending (client.feed request read) (link, start)).2.2),
        (ending (client.feed request read) (link, start)).2.1) := by
    cases done : client.feed request read (link, start) <;>
      simp [ending, Client.collect, collected, Except.map, done]
  rw [parts, Client.ending_feed]

theorem ending_executeFirst (client : Client τ) (statement : String) (link : Link τ) :
  ending (client.executeFirst statement) link
    = ((collected (digest (Table.readRowSet (Table.firstRow Table.collecting)) ⟨.empty, false⟩
        (ending (client.ask (.execute statement .tabular)) link).1)).bind firstValues,
      (ending (client.ask (.execute statement .tabular)) link).2)
  := by
  rw [Client.executeFirst, Client.executeRowsWith, ending_bind, ending_collect]
  cases collected (digest (Table.readRowSet (Table.firstRow Table.collecting)) ⟨.empty, false⟩
      (ending (client.ask (.execute statement .tabular)) link).1) with
  | error mishap => rfl
  | ok first =>
    simp only [Except.bind, firstValues]
    cases first.inner.allRows.head? with
    | none => rfl
    | some row =>
      simp only
      cases row.values <;> rfl

/-- A query asks one question, leaves the connection as that question does, and concludes what it
gives from what came of the question. -/
theorem run_eq (client : Client τ) (query : Query) (link : Link τ) :
  ending (query.run client) link
    = (query.conclude (ending (client.ask query.request) link).1,
      (ending (client.ask query.request) link).2)
  := by
  cases query with
  | cellsWith => apply ending_handled
  | rowsWith => apply ending_handled
  | listWith => apply ending_handled
  | cells => apply ending_collect
  | rows => apply ending_collect
  | first => apply ending_executeFirst
  | list => apply ending_collect

end Query

end OlapClient.Session
