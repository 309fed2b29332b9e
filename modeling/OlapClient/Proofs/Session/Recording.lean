import Mathlib.Tactic.Common
import OlapClient.Proofs.Session.Query
import OlapClient.Proofs.Transport.Owners

/-!
# Clients that record the uses of their transport

The record of what a transport is used for changes nothing of a question, and so nothing of a query.
A question over a transport that has owners uses the transport once, for the octets of its request.
-/

namespace OlapClient

open OlapClient.Number
open OlapClient.Text

variable {τ : Type}

namespace Shared

/-! ### Actions on a shared transport -/

theorem follows_retain :
  Follows unrecorded (retain : Handling (Shared (τ × List Use)) Nat) retain
  := by
  rintro ⟨⟨inner, written⟩, owners⟩
  by_cases refuses : owners = 0 ∨ maxSize ≤ owners <;>
    simp [viewed, retain, isClosed, unrecorded, refuses]

theorem follows_release (t : Transport τ) :
  Follows unrecorded (release t.recording) (release t)
  := by
  rintro ⟨⟨inner, written⟩, _ | _ | owners⟩
  · rfl
  · cases closing : t.close inner <;>
      simp [viewed, release, Transport.recording, unrecorded, closing]
  · rfl

theorem follows_send (t : Transport τ) (request : Octets) :
  Follows unrecorded (send t.recording request) (send t request)
  := by
  rintro ⟨⟨inner, written⟩, owners⟩
  by_cases none : owners = 0
  · simp [viewed, send, isClosed, unrecorded, none]
  · cases sending : t.send request inner <;>
      simp [viewed, send, isClosed, onPart, withInner, Transport.recording, unrecorded, none,
        sending]

theorem owners_send (t : Transport τ) (request : Octets) (s : Shared τ) :
  (ending (send t request) s).2.owners = s.owners
  := by
  obtain ⟨inner, owners⟩ := s
  by_cases none : owners = 0
  · simp [ending, send, isClosed, none]
  · cases sending : t.send request inner <;>
      simp [ending, send, isClosed, onPart, withInner, none, sending]

theorem owners_release (t : Transport τ) (s : Shared τ) :
  (ending (release t) s).2.owners = s.owners - 1
  := by
  obtain ⟨inner, _ | _ | owners⟩ := s
  · rfl
  · cases closing : t.close inner <;> simp [ending, release, closing]
  · rfl

/-- A transport that has owners is used once by a send. -/
theorem uses_send
    (t : Transport τ) (request : Octets) {s : Shared (τ × List Use)} (owned : s.owners ≠ 0) :
  (ending (send t.recording request) s).2.uses = s.uses ++ [.sent request]
  := by
  obtain ⟨⟨inner, written⟩, owners⟩ := s
  simp only at owned
  cases sending : t.send request inner <;>
    simp [ending, send, isClosed, onPart, withInner, Transport.recording, uses, owned, sending]

end Shared

namespace Session

open OlapClient.Protocol

/-! ### Questions and queries -/

/-- A client whose transport writes down its uses. -/
def Client.recording (client : Client τ) : Client (τ × List Use) :=
  ⟨client.mode, client.transport.recording⟩

/-- A connection without the record of the uses of its transport. -/
def Link.unrecorded (link : Link (τ × List Use)) : Link τ :=
  ⟨link.connection, link.shared.unrecorded⟩

/-- The record of uses changes nothing of a question. -/
theorem Client.ending_ask_unrecorded
    (client : Client τ) (request : Request) (link : Link (τ × List Use)) :
  ending (client.ask request) link.unrecorded
    = ((ending (client.recording.ask request) link).1,
      (ending (client.recording.ask request) link).2.unrecorded)
  := by
  rw [ending_ask, ending_ask]
  simp only [Link.unrecorded, recording, (Shared.follows_send _ _).ending_eq]

/-- The record of uses changes nothing of a query. -/
theorem Query.ending_run_unrecorded
    (client : Client τ) (query : Query) (link : Link (τ × List Use)) :
  ending (query.run client) link.unrecorded
    = ((ending (query.run client.recording) link).1,
      (ending (query.run client.recording) link).2.unrecorded)
  := by
  rw [run_eq, run_eq, client.ending_ask_unrecorded]

theorem Query.owners_run (client : Client τ) (query : Query) (link : Link τ) :
  (ending (query.run client) link).2.shared.owners = link.shared.owners
  := by
  rw [run_eq, Client.ending_ask]
  apply Shared.owners_send

/-- A query over a transport that has owners sends the octets of its request, and nothing else. -/
theorem Query.uses_run
    (client : Client τ) (query : Query) {link : Link (τ × List Use)}
    (owned : link.shared.owners ≠ 0) :
  (ending (query.run client.recording) link).2.shared.uses
    = link.shared.uses ++ [.sent (link.connection.octets query.request)]
  := by
  rw [run_eq, Client.ending_ask]
  apply Shared.uses_send client.transport _ owned

end Session

end OlapClient
