import Mathlib.Tactic.Common
import OlapClient.Proofs.Session.Recording

/-!
# The requests of one connection

A connection is used in `Turn`s: it asks, or its properties are changed.  `requests` lists what the
queries among some turns ask for, each written by itself with the properties of its moment, and
`sends_requests` says that this is what the transport is given: of an earlier turn, whatever came
of it, nothing is left in a later request but the properties.
-/

namespace OlapClient.Session

open OlapClient.Protocol
open OlapClient.Text

variable {τ : Type}

/-- A use of a connection. -/
inductive Turn : Type 1 where
  | ask (query : Query)
  /-- The caller changes the properties in place. -/
  | edit (change : Properties → Properties)

namespace Turn

/-- What a turn gives back. -/
def Answer : Turn → Type
  | ask query => Except Mishap query.Result
  | edit _ => Unit

/-- The answer to a turn, and the connection after it. -/
def run (client : Client τ) (link : Link τ) : (turn : Turn) → turn.Answer × Link τ
  | ask query => ending (query.run client) link
  | edit change =>
    ((), link.withConnection ⟨change link.connection.properties, link.connection.buffer⟩)

/-- The connection after turns. -/
def final (client : Client τ) (link : Link τ) : List Turn → Link τ
  | [] => link
  | turn :: rest => final client (turn.run client link).2 rest

/-- The answers to turns. -/
def answers (client : Client τ) (link : Link τ) : List Turn → List ((turn : Turn) × turn.Answer)
  | [] => []
  | turn :: rest => ⟨turn, (turn.run client link).1⟩ :: answers client (turn.run client link).2 rest

/-- The properties after turns. -/
def edited (properties : Properties) : List Turn → Properties
  | [] => properties
  | ask _ :: rest => edited properties rest
  | edit change :: rest => edited (change properties) rest

/-- The octets of the requests among turns, each written into an empty buffer. -/
def requests (properties : Properties) : List Turn → List Octets
  | [] => []
  | ask query :: rest => query.request.write properties [] :: requests properties rest
  | edit change :: rest => requests (change properties) rest

theorem final_append (client : Client τ) (link : Link τ) (before after : List Turn) :
  final client link (before ++ after) = final client (final client link before) after
  := by
  induction before generalizing link with
  | nil => rfl
  | cons turn before ih => apply ih

/-- A query leaves the properties as they are, whatever comes of it. -/
theorem properties_run (client : Client τ) (query : Query) (link : Link τ) :
  (ending (query.run client) link).2.connection.properties = link.connection.properties
  := by
  rw [Query.run_eq, Client.ending_ask]

theorem properties_final (client : Client τ) (link : Link τ) (turns : List Turn) :
  (final client link turns).connection.properties = edited link.connection.properties turns
  := by
  induction turns generalizing link with
  | nil => rfl
  | cons turn turns ih =>
    rw [final, ih]
    cases turn with
    | ask query => simp only [run, properties_run, edited]
    | edit change => rfl

theorem owners_run (client : Client τ) (link : Link τ) (turn : Turn) :
  (turn.run client link).2.shared.owners = link.shared.owners
  := by
  cases turn with
  | ask query => apply query.owners_run
  | edit change => rfl

theorem owners_final (client : Client τ) (link : Link τ) (turns : List Turn) :
  (final client link turns).shared.owners = link.shared.owners
  := by
  induction turns generalizing link with
  | nil => rfl
  | cons turn turns ih => rw [final, ih, owners_run]

/-- The uses of a transport grow by the requests among the turns. -/
theorem uses_final
    (client : Client τ) {link : Link (τ × List Use)} (owned : link.shared.owners ≠ 0)
    (turns : List Turn) :
  (final client.recording link turns).shared.uses
    = link.shared.uses ++ (requests link.connection.properties turns).map .sent
  := by
  induction turns generalizing link with
  | nil => simp [final, requests]
  | cons turn turns ih =>
    have still : (turn.run client.recording link).2.shared.owners ≠ 0 := by
      rw [owners_run]
      apply owned
    rw [final, ih still]
    cases turn with
    | ask query =>
      have sent := query.uses_run client owned
      simp [run, sent, properties_run, requests, Connection.octets]
    | edit change => rfl

theorem final_unrecorded
    (client : Client τ) (link : Link (τ × List Use)) (turns : List Turn) :
  answers client link.unrecorded turns = answers client.recording link turns
    ∧ final client link.unrecorded turns = (final client.recording link turns).unrecorded
  := by
  induction turns generalizing link with
  | nil => exact ⟨rfl, rfl⟩
  | cons turn turns ih =>
    have first : turn.run client link.unrecorded
        = ((turn.run client.recording link).1, (turn.run client.recording link).2.unrecorded) := by
      cases turn with
      | ask query => apply query.ending_run_unrecorded
      | edit change => rfl
    obtain ⟨later, last⟩ := ih (turn.run client.recording link).2
    constructor
    · rw [answers, answers, first, later]
    · rw [final, final, first, last]

/-- Over a transport that has owners, whatever it was used for and whatever the buffer holds, a
connection sends what its queries ask for and nothing else, in order: each query adds one send, of
its own request written by itself with the properties as they are then.  That the transport is a
recording one changes no answer and leaves no other connection. -/
theorem sends_requests
    (client : Client τ) (connection : Connection) (inner : τ) (used : List Use) (owners : Nat)
    (turns : List Turn) :
  let start : Link (τ × List Use) := ⟨connection, ⟨(inner, used), owners + 1⟩⟩
  (final client.recording start turns).shared.uses
      = used ++ (requests connection.properties turns).map .sent
    ∧ (∀ query, (final client.recording start (turns ++ [.ask query])).shared.uses
      = (final client.recording start turns).shared.uses
        ++ [.sent (query.request.write (edited connection.properties turns) [])])
    ∧ answers client start.unrecorded turns = answers client.recording start turns
    ∧ final client start.unrecorded turns = (final client.recording start turns).unrecorded
  := by
  intro start
  have owned : start.shared.owners ≠ 0 := Nat.succ_ne_zero owners
  refine ⟨?uses, ?one, ?same⟩
  case uses => apply uses_final client owned
  case one =>
    intro query
    have still : (final client.recording start turns).shared.owners ≠ 0 := by
      rw [owners_final]
      apply owned
    rw [final_append, uses_final client still, properties_final]
    rfl
  case same => apply final_unrecorded

end Turn

end OlapClient.Session
