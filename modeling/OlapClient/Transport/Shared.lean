import OlapClient.Transport.Basic

/-!
# Shared transports

A `Shared` transport has several owners.  `retain` adds an owner and `release` removes one.
The release that removes the last owner closes the transport, even when the close fails, and a
transport without owners takes no further part in anything.
-/

namespace OlapClient

open OlapClient.Number
open OlapClient.Text

/-- The state of a transport, and the number of its owners. -/
structure Shared (τ : Type) where
  inner : τ
  owners : Nat
  deriving DecidableEq, Repr

namespace Shared

variable {τ : Type}

/-- A transport with one owner. -/
def single (inner : τ) : Shared τ :=
  ⟨inner, 1⟩

/-- No owner is left. -/
def isClosed (s : Shared τ) : Bool :=
  s.owners == 0

/-- The state of the transport replaced. -/
def withInner (s : Shared τ) (inner : τ) : Shared τ :=
  ⟨inner, s.owners⟩

/-- Adds an owner and gives the number of owners.  A transport without owners gets none. -/
def retain : Handling (Shared τ) Nat :=
  fun s =>
    if s.isClosed ∨ maxSize ≤ s.owners then .error .handleClosed s
    else .ok (s.owners + 1) ⟨s.inner, s.owners + 1⟩

/-- Removes an owner, and closes the transport if it was the last one.  The result says whether
the transport was closed. -/
def release (t : Transport τ) : Handling (Shared τ) Bool :=
  fun s =>
    match s.owners with
    | 0 => .error .handleClosed s
    | 1 =>
      match t.close s.inner with
      | .ok _ inner => .ok true ⟨inner, 0⟩
      | .error e inner => .error e ⟨inner, 0⟩
    | owners + 2 => .ok false ⟨s.inner, owners + 1⟩

/-- Sends a request over a transport that has owners. -/
def send (t : Transport τ) (request : Octets) : Exchange (Shared τ) Octets :=
  fun s =>
    if s.isClosed then .error (.failed .handleClosed) s
    else onPart Shared.inner withInner (t.send request) s

end Shared

end OlapClient
