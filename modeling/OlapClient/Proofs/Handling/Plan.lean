import Mathlib.Data.List.Basic
import Mathlib.Tactic.Common
import OlapClient.Proofs.Handling.Actions

/-!
# Plans of calls

A read has a plan: the calls that are due, in order, where a part of the payload that cannot be read
stands in the plan as the failure to read it.  `carryOut` makes the calls of a plan one after the
other.  A `logging` action writes down a call with how it ended, and `Fulfils` says what such a log
can be: the calls are the first ones of the plan, a call that fails is the last one, and the result
is the failure of that call, or the failure of the part that could not be read.
-/

namespace OlapClient

variable {σ ω : Type}

/-- A call of a handler, and how it ended. -/
structure Called (ω : Type) where
  event : ω
  result : Except Failure Unit

/-- What a plan has in the place of a call. -/
def Called.due (made : Called ω) : Except Failure ω :=
  .ok made.event

theorem ok_injective :
  Function.Injective (Except.ok : ω → Except Failure ω)
  := by
  intro event event' same
  apply Except.ok.inj same

theorem Called.map_due (log : List (Called ω)) :
  log.map Called.due = (log.map Called.event).map .ok
  := List.map_map.symm

/-- An action of a handler can end as a call did. -/
def Called.Possible (call : ω → Handling σ Unit) (made : Called ω) : Prop :=
  ∃ s, (ending (call made.event) s).1 = made.result

/-- An action that also writes down an event and how the action ended. -/
def Handling.logging (event : ω) (action : Handling σ Unit) : Handling (σ × List (Called ω)) Unit :=
  fun s =>
    match action s.1 with
    | .ok _ inner => .ok () (inner, s.2 ++ [⟨event, .ok ()⟩])
    | .error failure inner => .error failure (inner, s.2 ++ [⟨event, .error failure⟩])

theorem Follows.logging (event : ω) (action : Handling σ Unit) :
  Follows Prod.fst (Handling.logging event action) action
  := by
  intro s
  rw [Handling.logging]
  cases action s.1 <;> rfl

theorem ending_logging (event : ω) (action : Handling σ Unit) (s : σ) (log : List (Called ω)) :
  ending (Handling.logging event action) (s, log)
    = ((ending action s).1, (ending action s).2, log ++ [⟨event, (ending action s).1⟩])
  := by
  cases done : action s <;> simp [ending, Handling.logging, done]

/-- Makes the call of an event that was read. -/
def attempt (call : ω → Handling σ Unit) (due : Except Failure ω) : Handling σ Unit := do
  let event ← Handling.ofExcept due
  call event

/-- Makes the calls of a plan, one after the other. -/
def carryOut (call : ω → Handling σ Unit) (plan : List (Except Failure ω)) : Handling σ Unit :=
  plan.forM (attempt call)

/-- Every part that a plan has to deliver can be read. -/
def Readable (plan : List (Except Failure ω)) : Prop :=
  ∀ due ∈ plan, ∃ event, due = .ok event

theorem readable_map_ok (events : List ω) :
  Readable (events.map .ok)
  := by
  intro due mem
  obtain ⟨event, -, same⟩ := List.mem_map.mp mem
  exact ⟨event, same.symm⟩

theorem readable_cons_ok {event : ω} {plan : List (Except Failure ω)} :
  Readable (.ok event :: plan) ↔ Readable plan
  := by
  rw [Readable, List.forall_mem_cons, Readable]
  apply and_iff_right ⟨event, rfl⟩

theorem not_readable_cons_error (failure : Failure) (plan : List (Except Failure ω)) :
  ¬ Readable (.error failure :: plan)
  := by
  intro readable
  obtain ⟨event, read⟩ := readable _ List.mem_cons_self
  cases read

theorem readable_iff {plan : List (Except Failure ω)} :
  Readable plan ↔ ∃ events : List ω, plan = events.map .ok
  := by
  constructor
  · intro readable
    induction plan with
    | nil => exact ⟨[], rfl⟩
    | cons due plan ih =>
      obtain ⟨event, rfl⟩ := readable due List.mem_cons_self
      obtain ⟨events, rfl⟩ := ih (readable_cons_ok.mp readable)
      exact ⟨event :: events, rfl⟩
  · rintro ⟨events, rfl⟩
    apply readable_map_ok

theorem attempt_ok (call : ω → Handling σ Unit) (event : ω) :
  attempt call (.ok event) = call event
  := pure_bind event call

theorem carryOut_cons (call : ω → Handling σ Unit) (due : Except Failure ω)
    (plan : List (Except Failure ω)) :
  carryOut call (due :: plan) = attempt call due >>= fun _ => carryOut call plan
  := rfl

theorem carryOut_append (call : ω → Handling σ Unit) (plan later : List (Except Failure ω)) :
  carryOut call (plan ++ later) = carryOut call plan >>= fun _ => carryOut call later
  := List.forM_append

/-- Calls that all act on parts of one kind, as a plan. -/
theorem carryOut_map
    {ρ : Type} (call : ω → Handling σ Unit) (plan : ρ → Except Failure ω)
    {act : ρ → Handling σ Unit} (acts : ∀ part, act part = attempt call (plan part))
    (parts : List ρ) :
  parts.forM act = carryOut call (parts.map plan)
  := by
  rw [funext acts]
  apply List.forM_map.symm

/-- Parts that each have a plan, as one plan. -/
theorem carryOut_flatMap
    {ρ : Type} (call : ω → Handling σ Unit) (plan : ρ → List (Except Failure ω))
    {act : ρ → Handling σ Unit} (acts : ∀ part, act part = carryOut call (plan part))
    (parts : List ρ) :
  parts.forM act = carryOut call (parts.flatMap plan)
  := by
  induction parts with
  | nil => rfl
  | cons part parts ih =>
    rw [List.flatMap_cons, carryOut_append, ← ih, ← acts]
    rfl

/-- A first call, a plan and a last call, as one plan. -/
theorem carryOut_enclosed
    (call : ω → Handling σ Unit) (first last : ω) (plan : List (Except Failure ω)) :
  carryOut call (.ok first :: plan ++ [.ok last])
    = call first >>= fun _ => carryOut call plan >>= fun _ => call last
  := by
  have ends : carryOut call [.ok last] = call last := by
    rw [carryOut_cons, attempt_ok]
    apply bind_pure
  rw [List.cons_append, carryOut_cons, attempt_ok, carryOut_append, ends]

/-- Calls that succeed on every state are made to the end. -/
theorem carryOut_map_ok
    {call : ω → Handling σ Unit} {next : σ → ω → σ}
    (succeeds : ∀ event s, call event s = .ok () (next s event)) (events : List ω) (s : σ) :
  carryOut call (events.map .ok) s = .ok () (events.foldl next s)
  := by
  induction events generalizing s with
  | nil => rfl
  | cons event events ih =>
    rw [List.map_cons, carryOut_cons, attempt_ok, List.foldl_cons, ← ih]
    simp only [Bind.bind, EStateM.bind, succeeds]

/-! ### The log of a plan -/

/-- A log of calls fulfils a plan as far as nothing fails, and ends with a result. -/
inductive Fulfils : List (Except Failure ω) → List (Called ω) → Except Failure Unit → Prop where
  | done : Fulfils [] [] (.ok ())
  /-- What is due cannot be read. -/
  | unreadable (failure : Failure) (plan : List (Except Failure ω)) :
      Fulfils (.error failure :: plan) [] (.error failure)
  | failed (event : ω) (failure : Failure) (plan : List (Except Failure ω)) :
      Fulfils (.ok event :: plan) [⟨event, .error failure⟩] (.error failure)
  | succeeded (event : ω) {plan : List (Except Failure ω)} {log : List (Called ω)}
      {result : Except Failure Unit} (later : Fulfils plan log result) :
      Fulfils (.ok event :: plan) (⟨event, .ok ()⟩ :: log) result

/-- The calls made in carrying a plan out fulfil it, and the log says of each how it ended. -/
theorem fulfils_carryOut
    (call : ω → Handling σ Unit) (plan : List (Except Failure ω)) (s : σ)
    (earlier : List (Called ω)) :
  ∃ log result after,
    ending (carryOut (fun event => .logging event (call event)) plan) (s, earlier)
        = (result, after, earlier ++ log)
      ∧ Fulfils plan log result
      ∧ ∀ made ∈ log, made.Possible call
  := by
  induction plan generalizing s earlier with
  | nil => exact ⟨[], .ok (), s, by rw [List.append_nil]; rfl, .done, by simp⟩
  | cons due plan ih =>
    rw [carryOut_cons]
    cases due with
    | error failure =>
      exact ⟨[], .error failure, s, by rw [List.append_nil]; rfl, .unreadable failure plan, by simp⟩
    | ok event =>
      rw [attempt_ok, ending_bind, ending_logging]
      rcases done : ending (call event) s with ⟨failure | ⟨⟩, after⟩
      · have logged : ∀ made ∈ [(⟨event, .error failure⟩ : Called ω)], made.Possible call := by
          intro made mem
          rw [List.mem_singleton.mp mem]
          exact ⟨s, by rw [done]⟩
        exact ⟨_, .error failure, after, rfl, .failed event failure plan, logged⟩
      · obtain ⟨log, result, last, ended, fulfils, logged⟩ := ih after (earlier ++ [⟨event, .ok ()⟩])
        rw [List.append_assoc, List.singleton_append] at ended
        refine ⟨⟨event, .ok ()⟩ :: log, result, last, ended, .succeeded event fulfils, ?_⟩
        rw [List.forall_mem_cons]
        exact ⟨⟨s, by rw [done]⟩, logged⟩

theorem Follows.carryOut
    {τ : Type} {view : σ → τ} {call : ω → Handling σ Unit} {other : ω → Handling τ Unit}
    (h : ∀ event, Follows view (call event) (other event)) (plan : List (Except Failure ω)) :
  Follows view (carryOut call plan) (OlapClient.carryOut other plan)
  := by
  apply Follows.forM
  intro due _
  apply Follows.bind (Follows.ofExcept due) h

/-- The calls of a plan from a state fulfil it, and end as the plan does without the log. -/
theorem fulfils_logged (call : ω → Handling σ Unit) (plan : List (Except Failure ω)) (s : σ) :
  Fulfils plan (ending (carryOut (fun event => .logging event (call event)) plan) (s, [])).2.2
    (ending (carryOut call plan) s).1
  := by
  obtain ⟨log, result, after, ended, fulfils, -⟩ := fulfils_carryOut call plan s []
  have plain := (Follows.carryOut (fun event => .logging event (call event)) plan).ending_eq (s, [])
  rw [plain, ended]
  apply fulfils

/-- The log says of no call what no action can end as. -/
theorem possible_of_mem_logged
    {call : ω → Handling σ Unit} {plan : List (Except Failure ω)} {s : σ} {made : Called ω}
    (mem : made ∈ (ending (carryOut (fun event => .logging event (call event)) plan) (s, [])).2.2) :
  made.Possible call
  := by
  obtain ⟨log, result, after, ended, -, possible⟩ := fulfils_carryOut call plan s []
  rw [ended] at mem
  apply possible made mem

namespace Fulfils

variable {plan : List (Except Failure ω)} {log : List (Called ω)} {result : Except Failure Unit}

/-- The calls are the first ones of the plan. -/
theorem isPrefix (h : Fulfils plan log result) :
  log.map Called.due <+: plan
  := by
  induction h with
  | done => apply List.prefix_refl
  | unreadable => apply List.nil_prefix
  | failed event failure plan => exact ⟨plan, rfl⟩
  | succeeded event later ih => exact List.cons_prefix_cons.mpr ⟨rfl, ih⟩

/-- A plan that is carried out to the end has every part readable. -/
theorem readable (h : Fulfils plan log result) (succeeds : result = .ok ()) :
  Readable plan
  := by
  induction h with
  | done => apply readable_map_ok []
  | unreadable => cases succeeds
  | failed => cases succeeds
  | succeeded event later ih =>
    rw [readable_cons_ok]
    apply ih succeeds

/-- Where a failure is none of a part that cannot be read, the result is that failure exactly if a
call ended in it. -/
theorem eq_error_iff
    (h : Fulfils plan log result) {failure : Failure} (readable : .error failure ∉ plan) :
  result = .error failure ↔ ∃ made ∈ log, made.result = .error failure
  := by
  induction h with
  | done => simp
  | unreadable failure' plan =>
    have other : failure ≠ failure' := by
      rintro rfl
      apply readable List.mem_cons_self
    simpa using other.symm
  | failed event failure' plan => simp
  | succeeded event later ih =>
    rw [ih fun mem => readable (List.mem_cons_of_mem _ mem)]
    simp

theorem isPrefix_of_readable {events : List ω} (h : Fulfils (events.map .ok) log result) :
  log.map Called.event <+: events
  := by
  have calls := h.isPrefix
  rw [Called.map_due] at calls
  apply (List.prefix_map_iff_of_injective ok_injective).mp calls

/-- A call that fails is the last one. -/
theorem succeeded_of_mem_dropLast (h : Fulfils plan log result) :
  ∀ made ∈ log.dropLast, made.result = .ok ()
  := by
  induction h with
  | done => simp
  | unreadable => simp
  | failed => simp
  | @succeeded event plan log result later ih =>
    intro made mem
    cases log with
    | nil => simp at mem
    | cons next log =>
      rw [List.dropLast_cons_cons] at mem
      rcases List.mem_cons.mp mem with rfl | mem
      · rfl
      · apply ih made mem

theorem succeeded_of_mem (h : Fulfils plan log result) (succeeds : result = .ok ()) :
  ∀ made ∈ log, made.result = .ok ()
  := by
  induction h with
  | done => simp
  | unreadable => cases succeeds
  | failed => cases succeeds
  | succeeded event later ih => exact List.forall_mem_cons.mpr ⟨rfl, ih succeeds⟩

/-- Where every call succeeds and every part can be read, no call of the plan is left out. -/
theorem complete
    (h : Fulfils plan log result) (succeed : ∀ made ∈ log, made.result = .ok ())
    (readable : Readable plan) :
  log.map Called.due = plan
  := by
  induction h with
  | done => rfl
  | unreadable failure plan => exact absurd readable (not_readable_cons_error failure plan)
  | failed event failure plan =>
    have succeeds := succeed _ List.mem_cons_self
    cases succeeds
  | succeeded event later ih =>
    rw [readable_cons_ok] at readable
    rw [List.forall_mem_cons] at succeed
    rw [List.map_cons, ih succeed.2 readable, Called.due]

theorem complete_of_readable
    {events : List ω} (h : Fulfils (events.map .ok) log result)
    (succeed : ∀ made ∈ log, made.result = .ok ()) :
  log.map Called.event = events
  := by
  have calls := h.complete succeed (readable_map_ok events)
  rw [Called.map_due] at calls
  apply List.map_injective_iff.mpr ok_injective calls

/-- The event that ends a plan is called for exactly when every other call succeeds. -/
theorem mem_iff_of_concat
    {events : List ω} {final : ω} (h : Fulfils ((events ++ [final]).map .ok) log result)
    (apart : final ∉ events) :
  final ∈ log.map Called.event
    ↔ ∀ made ∈ log, made.event ≠ final → made.result = .ok ()
  := by
  constructor
  · intro reached made mem other
    rcases List.prefix_concat_iff.mp h.isPrefix_of_readable with whole | short
    · obtain rfl | ⟨first, last, rfl⟩ := log.eq_nil_or_concat'
      · contradiction
      rw [List.map_append, List.map_singleton] at whole
      have ends : last.event = final := List.singleton_inj.mp (List.append_inj_right' whole rfl)
      rcases List.mem_append.mp mem with before | here
      · apply h.succeeded_of_mem_dropLast
        rw [List.dropLast_concat]
        apply before
      · rw [List.mem_singleton.mp here] at other
        contradiction
    · exact absurd (short.subset reached) apart
  · intro succeed
    by_contra missed
    have all_succeed : ∀ made ∈ log, made.result = .ok () := by
      intro made mem
      apply succeed made mem
      intro same
      apply missed
      rw [← same]
      apply List.mem_map_of_mem mem
    apply missed
    rw [h.complete_of_readable all_succeed]
    apply List.mem_concat_self

/-- Where every part can be read, the result is that of the last call. -/
theorem last_eq
    (h : Fulfils plan log result) (readable : Readable plan)
    (some_call : plan ≠ []) :
  log.getLast?.map Called.result = some result
  := by
  induction h with
  | done => contradiction
  | unreadable failure plan => exact absurd readable (not_readable_cons_error failure plan)
  | failed event failure plan => rfl
  | succeeded event later ih =>
    rw [readable_cons_ok] at readable
    cases later with
    | done => rfl
    | unreadable failure plan => exact absurd readable (not_readable_cons_error failure plan)
    | failed next failure plan => rfl
    | succeeded next later =>
      rw [List.getLast?_cons_cons]
      apply ih readable (List.cons_ne_nil _ _)

end Fulfils

end OlapClient
