import OlapClient.Handling
import OlapClient.Text.Utf8

/-!
# Transports

A `Transport` carries the octets of a request to a provider and the octets of its response
back.  It acts on a state of its own, which is kept whatever comes of an action.
-/

namespace OlapClient

open OlapClient.Text

/-- What ends an exchange without a response. -/
inductive Mishap where
  | failed (failure : Failure)
  /-- The transport broke down and said nothing of the cause. -/
  | crashed
  deriving DecidableEq, Repr

/-- An action that a mishap can end. -/
abbrev Exchange (τ : Type) : Type → Type :=
  EStateM Mishap τ

/-- A result as an exchange that leaves the state alone. -/
def Exchange.ofExcept {τ α : Type} : Except Failure α → Exchange τ α
  | .ok a => pure a
  | .error e => throw (.failed e)

/-- An action that may fail, as an exchange. -/
def Exchange.ofHandling {τ α : Type} (action : Handling τ α) : Exchange τ α :=
  fun s =>
    match action s with
    | .ok a s => .ok a s
    | .error e s => .error (.failed e) s

/-- A way to a provider, with a state of type `τ`. -/
structure Transport (τ : Type) where
  /-- Hands over a request and gives the response. -/
  send : Octets → Exchange τ Octets
  /-- Gives up what the transport holds open. -/
  close : Handling τ Unit

end OlapClient
