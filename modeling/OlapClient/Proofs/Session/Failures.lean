import Mathlib.Tactic.Common
import OlapClient.Proofs.Cube.Contents
import OlapClient.Proofs.Protocol.Envelope
import OlapClient.Proofs.Session.FirstValues
import OlapClient.Proofs.Session.Logging

/-!
# Where a failure of a query comes from

A query fails with what its question fails with, with a payload that is malformed, with a text that
stands for no value of its type, or with what a call of the caller's own handler ends in.
`Query.eq_handleClosed_iff` says when a query over a transport that has owners calls the transport
closed: exactly where the transport itself does, or such a call.
-/

namespace OlapClient

open OlapClient.Markup
open OlapClient.Protocol
open OlapClient.Text

variable {τ σ : Type}

/-- A send over a transport that has owners ends as the transport itself ends it. -/
theorem Shared.ending_send_of_owned
    (t : Transport τ) (request : Octets) {s : Shared τ} (owned : s.owners ≠ 0) :
  (ending (send t request) s).1 = (ending (t.send request) s.inner).1
  := by
  obtain ⟨inner, owners⟩ := s
  simp only at owned
  cases sending : t.send request inner <;>
    simp [ending, send, isClosed, onPart, owned, sending]

namespace Session

/-! ### How a query ends -/

namespace Query

/-- How a query ended. -/
def status : (query : Query) → Except Mishap query.Result → Except Mishap Unit
  | cellsWith _ _ _, answer => answer.bind fun result => result.1
  | rowsWith _ _ _, answer => answer.bind fun result => result.1
  | listWith _ _ _ _, answer => answer.bind fun result => result.1
  | _, answer => answer.map fun _ => ()

/-- What a transport gives for the octets of the request of a query. -/
def response (client : Client τ) (query : Query) (connection : Connection) (inner : τ) :
    Except Mishap Octets :=
  (ending (client.transport.send (connection.octets query.request)) inner).1

end Query

/-- A failure says that a text stands for no value of its type. -/
def IsCoercion (failure : Failure) : Prop :=
  ∃ field type fault, failure = .coercion field type fault

theorem digest_eq_error_iff
    {read : Element → Handling σ Unit} {start : σ} {payload : Element} {failure : Failure} :
  (digest read start (.ok payload)).1 = .error (.failed failure)
    ↔ (ending (read payload) start).1 = .error failure
  := by
  cases done : (ending (read payload) start).1 <;> simp [digest, done, Except.mapError]

theorem collected_eq_error_iff {result : Except Mishap Unit × σ} {mishap : Mishap} :
  collected result = .error mishap ↔ result.1 = .error mishap
  := by
  obtain ⟨_ | _, s⟩ := result <;> simp [collected, Except.map]

theorem map_eq_error_iff {α β : Type} {f : α → β} {answer : Except Mishap α} {mishap : Mishap} :
  answer.map f = .error mishap ↔ answer = .error mishap
  := by
  cases answer <;> simp [Except.map]

/-! ### Reads into a result of the client's own -/

/-- Cells are collected unless the payload is malformed. -/
theorem isMalformed_of_collected_cells
    {payload : Element} {failure : Failure}
    (h : collected (digest (Cube.readCellSet Cube.collecting) .empty (.ok payload))
      = .error (.failed failure)) :
  IsMalformed failure
  := by
  rw [collected_eq_error_iff, digest_eq_error_iff] at h
  apply Cube.isMalformed_of_ending h

/-- Rows are collected unless the payload is malformed. -/
theorem isMalformed_of_collected_rows
    {payload : Element} {failure : Failure}
    (h : collected (digest (Table.readRowSet Table.collecting) .empty (.ok payload))
      = .error (.failed failure)) :
  IsMalformed failure
  := by
  cases found : payload.findChild? rowsetNs "root" with
  | none =>
    rw [collected_of_none found] at h
    cases h
    exact ⟨_, rfl⟩
  | some root =>
    rw [collected_rows found] at h
    cases h

/-- The first of all rows has its values unless one of them cannot be read. -/
theorem isCoercion_of_valuesOfFirst
    {s : Table.RowSet} {failure : Failure} (h : valuesOfFirst s = .error (.failed failure)) :
  IsCoercion failure
  := by
  have first := firstOf_bind (.ok s)
  rw [Except.bind, h] at first
  cases first with
  | illTyped rows illTyped =>
    cases illTyped
    exact ⟨_, _, _, rfl⟩

namespace Query

/-- A query whose question fails ends as the question does, without a call. -/
theorem status_conclude_error (query : Query) (mishap : Mishap) :
  query.status (query.conclude (.error mishap)) = .error mishap
  := by cases query <;> rfl

theorem deliveries_conclude_error (query : Query) (mishap : Mishap) :
  query.deliveries (query.logging.conclude (.error mishap)) = []
  := by cases query <;> rfl

/-- A query over a payload fails with anything but the payload and its values exactly where a call
of the caller's own handler does. -/
theorem status_conclude_ok_iff
    (query : Query) (payload : Element) {failure : Failure} (formed : ¬ IsMalformed failure)
    (typed : ¬ IsCoercion failure) :
  query.status (query.conclude (.ok payload)) = .error (.failed failure)
    ↔ ∃ made ∈ query.deliveries (query.logging.conclude (.ok payload)),
      made.result = .error failure
  := by
  cases query with
  | cellsWith statement handler start =>
    apply digest_eq_error_iff.trans
    apply (Cube.ending_readCellSet_eq_error_iff handler payload start formed).trans
    exact (Delivery.exists_inr_iff (handler.calls payload start)).symm
  | rowsWith statement handler start =>
    apply digest_eq_error_iff.trans
    apply (Table.ending_readRowSet_eq_error_iff handler payload start formed).trans
    exact (Delivery.exists_inl_iff (handler.calls payload start)).symm
  | listWith requestType restrictions handler start =>
    apply digest_eq_error_iff.trans
    apply (Table.ending_readRowSet_eq_error_iff handler payload start formed).trans
    exact (Delivery.exists_inl_iff (handler.calls payload start)).symm
  | cells statement =>
    apply iff_of_false _ (by simp [deliveries])
    intro failed
    apply formed (isMalformed_of_collected_cells (map_eq_error_iff.mp failed))
  | rows statement =>
    apply iff_of_false _ (by simp [deliveries])
    intro failed
    apply formed (isMalformed_of_collected_rows (map_eq_error_iff.mp failed))
  | first statement =>
    apply iff_of_false _ (by simp [deliveries])
    intro failed
    have first : (collected (digest (Table.readRowSet Table.collecting) .empty
        (.ok payload))).bind valuesOfFirst = .error (.failed failure) := by
      rw [← conclude_first]
      apply map_eq_error_iff.mp failed
    cases rows : collected (digest (Table.readRowSet Table.collecting) .empty (.ok payload)) with
    | error mishap =>
      rw [rows] at first
      cases first
      apply formed (isMalformed_of_collected_rows rows)
    | ok s =>
      rw [rows] at first
      apply typed (isCoercion_of_valuesOfFirst first)
  | list requestType restrictions =>
    apply iff_of_false _ (by simp [deliveries])
    intro failed
    apply formed (isMalformed_of_collected_rows (map_eq_error_iff.mp failed))

end Query

/-! ### A transport that is called closed -/

/-- A response is refused as malformed or for its fault, and for nothing else. -/
theorem failure_of_readResponse
    {bytes : Octets} {operation : Operation} {failure : Failure}
    (h : readResponse bytes operation = .error failure) :
  IsMalformed failure ∨ ∃ fault, failure = .serverFault fault
  := by
  by_cases some_body : ∃ body, HasBody bytes body
  · obtain ⟨body, held⟩ := some_body
    by_cases fault : HasFault body
    · obtain ⟨element, first⟩ := (hasFault_iff body).mp fault
      obtain ⟨f, -, read⟩ := readResponse_of_fault held first operation
      exact .inr ⟨f, Except.error.inj (h.symm.trans read)⟩
    · rcases readResponse_of_not_hasFault held fault operation with
        ⟨payload, -, read⟩ | ⟨-, defect, read⟩
      · cases h.symm.trans read
      · exact .inl ⟨defect, Except.error.inj (h.symm.trans read)⟩
  · obtain ⟨defect, read⟩ := readResponse_of_not_hasBody (not_exists.mp some_body) operation
    exact .inl ⟨defect, Except.error.inj (h.symm.trans read)⟩

theorem readResponse_ne_handleClosed (bytes : Octets) (operation : Operation) :
  readResponse bytes operation ≠ .error .handleClosed
  := by
  intro refused
  rcases failure_of_readResponse refused with ⟨defect, same⟩ | ⟨fault, same⟩ <;> cases same

/-- A crash that is caught is no closed transport. -/
theorem Mode.surface_eq_handleClosed_iff {mode : Mode} {mishap : Mishap} :
  mode.surface mishap = .failed .handleClosed ↔ mishap = .failed .handleClosed
  := by
  cases mode <;> cases mishap <;> simp [surface, caught]

/-- A question says that the transport is closed exactly where the transport does. -/
theorem verdict_eq_handleClosed_iff
    {mode : Mode} {operation : Operation} {sent : Except Mishap Octets} :
  verdict mode operation sent = .error (.failed .handleClosed) ↔ sent = .error (.failed .handleClosed)
  := by
  cases sent with
  | error mishap => simp [verdict, Mode.surface_eq_handleClosed_iff]
  | ok response =>
    apply iff_of_false
    · intro refused
      rcases verdict_eq_error_iff.mp refused with ⟨cause, sent, -⟩ | ⟨bytes, failure, -, read, same⟩
      · cases sent
      · cases same
        apply readResponse_ne_handleClosed _ _ read
    · intro failed
      cases failed

/-- A query over a transport that has owners says that the transport is closed exactly where the
transport itself does, or where a call of the caller's own handler does that this query makes. -/
theorem Query.eq_handleClosed_iff
    (client : Client τ) (query : Query) {link : Link τ} (owned : link.shared.owners ≠ 0) :
  query.status (ending (query.run client) link).1 = .error (.failed .handleClosed)
    ↔ query.response client link.connection link.shared.inner = .error (.failed .handleClosed)
      ∨ ∃ made ∈ query.deliveries (ending (query.logging.run client) link).1,
        made.result = .error .handleClosed
  := by
  have formed : ¬ IsMalformed .handleClosed := by
    rintro ⟨defect, ⟨⟩⟩
  have typed : ¬ IsCoercion .handleClosed := by
    rintro ⟨field, type, fault, ⟨⟩⟩
  have asked : (ending (client.ask query.request) link).1 = .error (.failed .handleClosed)
      ↔ query.response client link.connection link.shared.inner = .error (.failed .handleClosed) := by
    rw [Client.ending_ask, Shared.ending_send_of_owned _ _ owned]
    apply verdict_eq_handleClosed_iff
  rw [run_eq, run_eq, request_logging, ← asked]
  cases (ending (client.ask query.request) link).1 with
  | error mishap => simp [status_conclude_error, deliveries_conclude_error]
  | ok payload => simp [status_conclude_ok_iff query payload formed typed]

end Session

end OlapClient
