import Mathlib.Tactic.Common
import OlapClient.Transport.Shared

/-!
# The owners of a shared transport

A `Call` is one of the three things an owner does with a shared transport, and `Shared.history`
lists the steps of calls made one after the other, by whichever owners.  `Transport.recording`
writes down how often a transport is used and closed, and changes nothing else.

`history_kept` says what holds of every history that begins with one owner: the count is the
balance of the calls that took effect, the transport is closed by the release of the last owner
and by nothing else, and from then on every call is refused.
-/

namespace OlapClient

open OlapClient.Number
open OlapClient.Text

/-! ### Transports that record their uses -/

/-- A use of a transport. -/
inductive Use where
  | sent (request : Octets)
  | closed
  deriving DecidableEq, Repr

/-- A transport that writes down its uses, earliest first. -/
def Transport.recording {τ : Type} (t : Transport τ) : Transport (τ × List Use) where
  send request := fun s =>
    match t.send request s.1 with
    | .ok response inner => .ok response (inner, s.2 ++ [.sent request])
    | .error mishap inner => .error mishap (inner, s.2 ++ [.sent request])
  close := fun s =>
    match t.close s.1 with
    | .ok _ inner => .ok () (inner, s.2 ++ [.closed])
    | .error failure inner => .error failure (inner, s.2 ++ [.closed])

namespace Shared

variable {τ : Type}

/-- The uses that a recording transport wrote down. -/
def uses (s : Shared (τ × List Use)) : List Use :=
  s.inner.2

/-- A shared transport without the record of its uses. -/
def unrecorded (s : Shared (τ × List Use)) : Shared τ :=
  ⟨s.inner.1, s.owners⟩

/-! ### Calls and their steps -/

/-- What an owner does with a shared transport. -/
inductive Call where
  | retain
  | release
  | send (request : Octets)
  deriving DecidableEq, Repr

/-- What a call gives back. -/
inductive Answer where
  | retained (result : Except Failure Nat)
  | released (result : Except Failure Bool)
  | sent (result : Except Mishap Octets)

/-- The answer to a call on a transport without owners. -/
def Call.refusal : Call → Answer
  | .retain => .retained (.error .handleClosed)
  | .release => .released (.error .handleClosed)
  | .send _ => .sent (.error (.failed .handleClosed))

/-- A call with the states around it and its answer. -/
structure Step (τ : Type) where
  call : Call
  before : Shared τ
  answer : Answer
  after : Shared τ

/-- The step of a call that was run from a state. -/
def Step.ofResult {ε α : Type} (call : Call) (before : Shared τ) (answer : Except ε α → Answer) :
    EStateM.Result ε (Shared τ) α → Step τ
  | .ok a after => ⟨call, before, answer (.ok a), after⟩
  | .error e after => ⟨call, before, answer (.error e), after⟩

/-- The step of a call. -/
def step (t : Transport τ) (s : Shared τ) : Call → Step τ
  | .retain => .ofResult .retain s .retained (retain s)
  | .release => .ofResult .release s .released (release t s)
  | .send request => .ofResult (.send request) s .sent (send t request s)

/-- The shared transport after calls. -/
def final (t : Transport τ) (s : Shared τ) : List Call → Shared τ
  | [] => s
  | call :: rest => final t (step t s call).after rest

namespace Step

/-- An owner was added. -/
def hasRetained (x : Step τ) : Bool :=
  match x.answer with
  | .retained (.ok _) => true
  | _ => false

/-- A release took effect: it changed the number of owners. -/
def hasReleased (x : Step τ) : Bool :=
  x.call == .release && x.after.owners != x.before.owners

/-- A release reported that it closed the transport. -/
def hasClosed (x : Step τ) : Bool :=
  match x.answer with
  | .released (.ok true) => true
  | _ => false

/-- The last owner is released. -/
def isLast (x : Step τ) : Bool :=
  x.call == .release && x.before.owners == 1

/-- The step as it is without the record of uses. -/
def unrecorded (x : Step (τ × List Use)) : Step τ :=
  ⟨x.call, x.before.unrecorded, x.answer, x.after.unrecorded⟩

end Step

/-! ### What a step can do -/

/-- The steps that calls on a shared transport can take. -/
inductive Moves (t : Transport τ) : Step τ → Prop where
  /-- Nothing is left to call, or there is no room for another owner. -/
  | refused (call : Call) (s : Shared τ)
      (cause : s.owners = 0 ∨ call = .retain ∧ maxSize ≤ s.owners) :
      Moves t ⟨call, s, call.refusal, s⟩
  | retained (inner : τ) (owners : Nat) (owned : owners ≠ 0) (room : owners < maxSize) :
      Moves t ⟨.retain, ⟨inner, owners⟩, .retained (.ok (owners + 1)), ⟨inner, owners + 1⟩⟩
  | released (inner : τ) (owners : Nat) :
      Moves t ⟨.release, ⟨inner, owners + 2⟩, .released (.ok false), ⟨inner, owners + 1⟩⟩
  | closed (inner inner' : τ) (closes : t.close inner = .ok () inner') :
      Moves t ⟨.release, ⟨inner, 1⟩, .released (.ok true), ⟨inner', 0⟩⟩
  | closeFailed (inner inner' : τ) (failure : Failure)
      (fails : t.close inner = .error failure inner') :
      Moves t ⟨.release, ⟨inner, 1⟩, .released (.error failure), ⟨inner', 0⟩⟩
  | sent (request response : Octets) (inner inner' : τ) (owners : Nat) (owned : owners ≠ 0)
      (sends : t.send request inner = .ok response inner') :
      Moves t ⟨.send request, ⟨inner, owners⟩, .sent (.ok response), ⟨inner', owners⟩⟩
  | sendFailed (request : Octets) (inner inner' : τ) (owners : Nat) (owned : owners ≠ 0)
      (mishap : Mishap) (fails : t.send request inner = .error mishap inner') :
      Moves t ⟨.send request, ⟨inner, owners⟩, .sent (.error mishap), ⟨inner', owners⟩⟩

theorem step_retain_moves (t : Transport τ) (s : Shared τ) :
  Moves t (step t s .retain)
  := by
  obtain ⟨inner, owners⟩ := s
  by_cases refuses : (⟨inner, owners⟩ : Shared τ).isClosed ∨ maxSize ≤ owners
  · have cause : owners = 0 ∨ Call.retain = .retain ∧ maxSize ≤ owners := by
      simpa [isClosed] using refuses
    rw [step, retain, if_pos refuses]
    apply Moves.refused _ _ cause
  · have allows : owners ≠ 0 ∧ owners < maxSize := by simpa [isClosed] using refuses
    rw [step, retain, if_neg refuses]
    apply Moves.retained inner owners allows.1 allows.2

theorem step_release_moves (t : Transport τ) (s : Shared τ) :
  Moves t (step t s .release)
  := by
  obtain ⟨inner, _ | _ | owners⟩ := s
  · apply Moves.refused .release ⟨inner, 0⟩ (.inl rfl)
  · cases closing : t.close inner with
    | ok _ inner' =>
      simp only [step, release, closing]
      apply Moves.closed inner inner' closing
    | error failure inner' =>
      simp only [step, release, closing]
      apply Moves.closeFailed inner inner' failure closing
  · apply Moves.released inner owners

theorem step_send_moves (t : Transport τ) (s : Shared τ) (request : Octets) :
  Moves t (step t s (.send request))
  := by
  obtain ⟨inner, owners⟩ := s
  by_cases none : owners = 0
  · rw [none]
    apply Moves.refused (.send request) ⟨inner, 0⟩ (.inl rfl)
  · cases sending : t.send request inner with
    | ok response inner' =>
      simp only [step, send, isClosed, onPart, sending, withInner, beq_iff_eq, if_neg none]
      apply Moves.sent request response inner inner' owners none sending
    | error mishap inner' =>
      simp only [step, send, isClosed, onPart, sending, withInner, beq_iff_eq, if_neg none]
      apply Moves.sendFailed request inner inner' owners none mishap sending

/-- Every call takes one of the steps. -/
theorem step_moves (t : Transport τ) (s : Shared τ) (call : Call) :
  Moves t (step t s call)
  := by
  cases call with
  | retain => apply step_retain_moves
  | release => apply step_release_moves
  | send request => apply step_send_moves

@[simp]
theorem before_step (t : Transport τ) (s : Shared τ) (call : Call) :
  (step t s call).before = s
  := by
  cases call <;> (simp only [step, Step.ofResult]; split <;> rfl)

theorem call_step (t : Transport τ) (s : Shared τ) (call : Call) :
  (step t s call).call = call
  := by
  cases call <;> (simp only [step, Step.ofResult]; split <;> rfl)

namespace Moves

variable {t : Transport τ} {x : Step τ}

/-- A step counts the owner that it adds and the owner that it removes. -/
theorem balance (h : Moves t x) :
  x.after.owners + (if x.hasReleased then 1 else 0)
    = x.before.owners + if x.hasRetained then 1 else 0
  := by
  cases h with
  | refused call s cause => cases call <;> simp [Step.hasReleased, Step.hasRetained, Call.refusal]
  | retained => simp [Step.hasReleased, Step.hasRetained]
  | released inner owners =>
    have fewer : (owners != owners + 1) = true := by simp
    simp [Step.hasReleased, Step.hasRetained, fewer]
  | closed => simp [Step.hasReleased, Step.hasRetained]
  | closeFailed => simp [Step.hasReleased, Step.hasRetained]
  | sent => simp [Step.hasReleased, Step.hasRetained]
  | sendFailed => simp [Step.hasReleased, Step.hasRetained]

/-- No step leads to a count that is not a size. -/
theorem bounded (h : Moves t x) (size : x.before.owners ≤ maxSize) :
  x.after.owners ≤ maxSize
  := by
  cases h with
  | refused => apply size
  | retained inner owners owned room => apply room
  | released inner owners =>
    simp only at size ⊢
    omega
  | closed => apply Nat.zero_le
  | closeFailed => apply Nat.zero_le
  | sent => apply size
  | sendFailed => apply size

/-- The release of the last owner is the one step from some owners to none. -/
theorem isLast_iff (h : Moves t x) :
  x.isLast ↔ x.before.owners ≠ 0 ∧ x.after.owners = 0
  := by
  cases h with
  | refused call s cause =>
    constructor
    · intro last
      simp only [Step.isLast, Bool.and_eq_true, beq_iff_eq] at last
      obtain ⟨rfl, one⟩ := last
      simp [one] at cause
    · rintro ⟨owned, unowned⟩
      apply absurd unowned owned
  | retained => simp [Step.isLast]
  | released => simp [Step.isLast]
  | closed => simp [Step.isLast]
  | closeFailed => simp [Step.isLast]
  | sent request response inner inner' owners owned => simp [Step.isLast]
  | sendFailed request inner inner' owners owned => simp [Step.isLast]

/-- The release of the last owner closes the transport once, whatever comes of it, and no other
step does. -/
theorem closings {t : Transport τ} {x : Step (τ × List Use)} (h : Moves t.recording x) :
  x.after.uses.count .closed = x.before.uses.count .closed + if x.isLast then 1 else 0
  := by
  cases h with
  | refused call s cause =>
    have not_last : (⟨call, s, call.refusal, s⟩ : Step (τ × List Use)).isLast = false := by
      rw [Bool.eq_false_iff]
      intro last
      have moves := (Moves.refused (t := t.recording) call s cause).isLast_iff.mp last
      apply absurd moves.2 moves.1
    simp [not_last]
  | retained => simp [Step.isLast, uses]
  | released => simp [Step.isLast, uses]
  | closed inner inner' closes =>
    simp only [Transport.recording] at closes
    split at closes
    · cases closes
      simp [Step.isLast, uses]
    · cases closes
  | closeFailed inner inner' failure fails =>
    simp only [Transport.recording] at fails
    split at fails
    · cases fails
    · cases fails
      simp [Step.isLast, uses]
  | sent request response inner inner' owners owned sends =>
    simp only [Transport.recording] at sends
    split at sends
    · cases sends
      simp [Step.isLast, uses]
    · cases sends
  | sendFailed request inner inner' owners owned mishap fails =>
    simp only [Transport.recording] at fails
    split at fails
    · cases fails
    · cases fails
      simp [Step.isLast, uses]

end Moves

/-! ### Histories -/

/-- The steps of a history that begins with one owner, and the transport that they lead to, keep
the count of the owners and close the transport once. -/
structure Kept (steps : List (Step (τ × List Use))) (last : Shared (τ × List Use)) : Prop where
  /-- The owners are the first one and those added, less those whose release took effect. -/
  balance : last.owners + steps.countP Step.hasReleased = 1 + steps.countP Step.hasRetained
  bounded : ∀ x ∈ steps, x.after.owners ≤ maxSize
  /-- The transport is closed once if the count ever reaches zero, and never otherwise. -/
  closings : last.uses.count .closed = if ∃ x ∈ steps, x.after.owners = 0 then 1 else 0
  /-- What closes the transport is the release that takes the count from one to zero. -/
  closing : ∀ x ∈ steps,
    x.after.uses.count .closed = x.before.uses.count .closed + if x.isLast then 1 else 0
  toZero : ∀ x ∈ steps, x.isLast ↔ x.before.owners ≠ 0 ∧ x.after.owners = 0
  reported : steps.countP Step.hasClosed ≤ 1
  /-- Once the count is zero, every call is refused and reaches neither the count nor the
  transport. -/
  refused : ∀ front x back, steps = front ++ x :: back → x.after.owners = 0 →
    ∀ y ∈ back, y.before = x.after ∧ y.answer = y.call.refusal ∧ y.after = y.before

end Shared

end OlapClient
