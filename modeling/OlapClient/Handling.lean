import OlapClient.Failure

/-!
# Actions of handlers

A handler receives the parts of a result one by one and keeps a state of its own.  Each of its
actions changes that state and either succeeds or fails; the state that a failing action
leaves is kept.  `onPart` makes an action on a part of a state one on the whole.
-/

namespace OlapClient

/-- An action on a part of a state, where `put` is the state with another part. -/
def onPart {ε σ ρ α : Type} (part : σ → ρ) (put : σ → ρ → σ) (action : EStateM ε ρ α) :
    EStateM ε σ α :=
  fun s =>
    match action (part s) with
    | .ok a r => .ok a (put s r)
    | .error e r => .error e (put s r)

/-- An action on a state, which may fail. -/
abbrev Handling (σ : Type) : Type → Type :=
  EStateM Failure σ

/-- A result as an action that leaves the state alone. -/
def Handling.ofExcept {σ α : Type} : Except Failure α → Handling σ α
  | .ok a => pure a
  | .error e => throw e

/-- The result of an action and the state that it leaves. -/
def Handling.outcome {σ α : Type} (action : Handling σ α) (s : σ) : Except Failure α × σ :=
  match action s with
  | .ok a s => (.ok a, s)
  | .error e s => (.error e, s)

end OlapClient
