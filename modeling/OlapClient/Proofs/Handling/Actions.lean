import Mathlib.Tactic.Common
import OlapClient.Handling

/-!
# Laws of actions

A view forgets some of a state.  An action `Follows` another through a view when, seen through it,
it ends as the other does and leaves the state that the other leaves.  Sequences, repetitions and
actions on a part of a state keep this, so a program follows another when the actions do that it is
made of.
-/

namespace OlapClient

variable {ε σ τ α β : Type}

/-- How an action ends, and the state that it leaves. -/
def ending (action : EStateM ε σ α) (s : σ) : Except ε α × σ :=
  match action s with
  | .ok a s => (.ok a, s)
  | .error e s => (.error e, s)

theorem ending_eq_error_iff {action : EStateM ε σ α} {s s' : σ} {e : ε} :
  ending action s = (.error e, s') ↔ action s = .error e s'
  := by
  cases done : action s <;> simp [ending, done]

theorem outcome_eq_ending (action : Handling σ α) (s : σ) :
  action.outcome s = ending action s
  := by
  cases done : action s <;> simp [Handling.outcome, ending, done]

theorem ending_bind (action : EStateM ε σ α) (next : α → EStateM ε σ β) (s : σ) :
  ending (action >>= next) s
    = match ending action s with
      | (.ok a, s') => ending (next a) s'
      | (.error e, s') => (.error e, s')
  := by
  cases done : action s <;> simp [ending, Bind.bind, EStateM.bind, done]

/-- A result with its state seen through a view. -/
def viewed (view : σ → τ) : EStateM.Result ε σ α → EStateM.Result ε τ α
  | .ok a s => .ok a (view s)
  | .error e s => .error e (view s)

/-- An action does what another does, seen through a view of its state. -/
def Follows (view : σ → τ) (action : EStateM ε σ α) (other : EStateM ε τ α) : Prop :=
  ∀ s, viewed view (action s) = other (view s)

/-! ### Following through a view -/

namespace Follows

variable {view : σ → τ}

theorem refl (action : EStateM ε σ α) :
  Follows id action action
  := by
  intro s
  cases done : action s <;> simp [viewed, done]

theorem pure (a : α) :
  Follows view (pure a : EStateM ε σ α) (pure a)
  := by
  intro s
  rfl

theorem throw (e : ε) :
  Follows view (throw e : EStateM ε σ α) (throw e)
  := by
  intro s
  rfl

theorem modify {f : σ → σ} {g : τ → τ} (h : ∀ s, view (f s) = g (view s)) :
  Follows view (modify f : EStateM ε σ Unit) (modify g)
  := by
  intro s
  apply congrArg (EStateM.Result.ok ()) (h s)

theorem bind
    {action : EStateM ε σ α} {other : EStateM ε τ α} {next : α → EStateM ε σ β}
    {next' : α → EStateM ε τ β} (first : Follows view action other)
    (later : ∀ a, Follows view (next a) (next' a)) :
  Follows view (action >>= next) (other >>= next')
  := by
  intro s
  have same := first s
  cases done : action s with
  | ok a s' =>
    rw [done] at same
    simp only [Bind.bind, EStateM.bind, done, ← same]
    apply later a s'
  | error e s' =>
    rw [done] at same
    simp only [Bind.bind, EStateM.bind, done, ← same]
    rfl

theorem forM
    {l : List β} {action : β → EStateM ε σ PUnit} {other : β → EStateM ε τ PUnit}
    (h : ∀ b ∈ l, Follows view (action b) (other b)) :
  Follows view (l.forM action) (l.forM other)
  := by
  induction l with
  | nil => apply Follows.pure
  | cons b l ih =>
    apply Follows.bind (h b List.mem_cons_self)
    intro _
    apply ih fun b' hb' => h b' (List.mem_cons_of_mem b hb')

/-- An action on a part follows when the view takes parts to parts. -/
theorem onPart
    {σ' τ' : Type} {part : σ → σ'} {put : σ → σ' → σ} {part' : τ → τ'} {put' : τ → τ' → τ}
    {viewPart : σ' → τ'} {action : EStateM ε σ' α} {other : EStateM ε τ' α}
    (follows : Follows viewPart action other) (parts : ∀ s, part' (view s) = viewPart (part s))
    (puts : ∀ s r, view (put s r) = put' (view s) (viewPart r)) :
  Follows view (onPart part put action) (OlapClient.onPart part' put' other)
  := by
  intro s
  have same := follows (part s)
  rw [← parts] at same
  simp only [OlapClient.onPart, ← same]
  cases action (part s) with
  | ok a r => apply congrArg (EStateM.Result.ok a) (puts s r)
  | error e r => apply congrArg (EStateM.Result.error e) (puts s r)

/-- What follows an action ends as it does, and the view of the state that it leaves is the state
that the other leaves. -/
theorem ending_eq
    {action : EStateM ε σ α} {other : EStateM ε τ α} (h : Follows view action other) (s : σ) :
  ending other (view s) = ((ending action s).1, view (ending action s).2)
  := by
  rw [ending, ← h s, ending]
  cases action s <;> rfl

theorem ofExcept {view : σ → τ} (result : Except Failure α) :
  Follows view (Handling.ofExcept result : Handling σ α) (Handling.ofExcept result)
  := by
  cases result with
  | ok a => apply Follows.pure
  | error e => apply Follows.throw

end Follows

end OlapClient
