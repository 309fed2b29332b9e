import Mathlib.Tactic.Common
import OlapClient.Proofs.Session.Ownership

/-!
# The two modes of a client

A blocking client sends a request from the buffer of its connection.  A client that works in the
background takes the buffer out, sends it on a thread where a crash is caught, and puts it back.
`modes_agree` says that over a transport that never crashes no caller can tell the two apart, and
neither can the transport: a caller who decides each act by what came of the earlier ones sees the
same answers and the same calls of its handlers, and the transport sees the same requests in the
same order.
-/

namespace OlapClient

open OlapClient.Markup
open OlapClient.Protocol
open OlapClient.Text

variable {τ σ : Type}

/-- A transport never crashes: it says of each failure what it is. -/
def Transport.Steady (t : Transport τ) : Prop :=
  ∀ request s s', t.send request s ≠ .error .crashed s'

theorem Transport.Steady.recording {t : Transport τ} (steady : t.Steady) :
  t.recording.Steady
  := by
  rintro request ⟨inner, written⟩ s' crashed
  cases sent : t.send request inner with
  | ok response inner' => simp [Transport.recording, sent] at crashed
  | error mishap inner' =>
    simp only [Transport.recording, sent, EStateM.Result.error.injEq] at crashed
    rw [crashed.1] at sent
    apply steady request inner inner' sent

/-- A transport that never crashes does not crash when it is shared. -/
theorem Transport.Steady.not_crashed
    {t : Transport τ} (steady : t.Steady) (request : Octets) (s : Shared τ) :
  (ending (Shared.send t request) s).1 ≠ .error .crashed
  := by
  intro crashed
  by_cases owned : s.owners = 0
  · simp [ending, Shared.send, Shared.isClosed, owned] at crashed
  · rw [Shared.ending_send_of_owned t request owned] at crashed
    cases sent : t.send request s.inner with
    | ok response inner => simp [ending, sent] at crashed
    | error mishap inner =>
      simp only [ending, sent, Except.error.injEq] at crashed
      rw [crashed] at sent
      apply steady request s.inner inner sent

namespace Session

/-! ### Acts of a caller -/

/-- What came of an act: its answer, none if its connection was not in use, and the calls of the
caller's handler. -/
structure Outcome : Type 1 where
  act : Act
  answer : Option act.Answer
  deliveries : List Delivery

/-- A caller, who decides what to do next, if anything, by what came of all earlier acts.  One who
looks at their number only makes a fixed sequence of acts. -/
abbrev Caller : Type 1 :=
  List Outcome → Option Act

/-- What came of the acts of a caller, `count` more of them at most, and the family after them. -/
def converse (client : Client τ) (caller : Caller) (past : List Outcome) (f : Family τ) :
    Nat → List Outcome × Family τ
  | 0 => (past, f)
  | count + 1 =>
    match caller past with
    | some act =>
      let outcome : Outcome := ⟨act, (act.run client f).1, act.deliveries client f⟩
      converse client caller (past ++ [outcome]) (act.run client f).2 count
    | none => (past, f)

/-- The record of the uses of the transport changes no outcome and leaves no other family. -/
theorem converse_unrecorded
    (client : Client τ) (caller : Caller) (past : List Outcome) (f : Family (τ × List Use))
    (count : Nat) :
  converse client caller past f.unrecorded count
    = ((converse client.recording caller past f count).1,
      (converse client.recording caller past f count).2.unrecorded)
  := by
  induction count generalizing past f with
  | zero => rfl
  | succ count ih =>
    rw [converse, converse]
    cases caller past with
    | none => rfl
    | some act =>
      have deliveries : act.deliveries client f.unrecorded
          = act.deliveries client.recording f := by
        cases act with
        | ask i query =>
          rw [Act.deliveries, f.query_unrecorded client i query.logging]
          rfl
        | clone | edit | drop => rfl
      simp only [act.run_unrecorded client f, deliveries]
      apply ih

/-! ### Over a transport that never crashes -/

section Steady

variable {t : Transport τ} (steady : t.Steady)

include steady

theorem Query.run_eq_of_steady (query : Query) (link : Link τ) :
  ending (query.run ⟨.blocking, t⟩) link = ending (query.run ⟨.background, t⟩) link
  := by
  have verdicts (request : Request) (bytes : Octets) :
      verdict .blocking request.operation (ending (Shared.send t bytes) link.shared).1
        = verdict .background request.operation (ending (Shared.send t bytes) link.shared).1 := by
    have answered := steady.not_crashed bytes link.shared
    cases sent : (ending (Shared.send t bytes) link.shared).1 with
    | ok response => rfl
    | error mishap =>
      cases mishap with
      | failed failure => rfl
      | crashed => contradiction
  rw [run_eq, run_eq, Client.ending_ask, Client.ending_ask, verdicts]

theorem Family.query_eq_of_steady (f : Family τ) (i : Nat) (query : Query) :
  f.query i (query.run ⟨.blocking, t⟩) = f.query i (query.run ⟨.background, t⟩)
  := by
  cases live : f.connection? i with
  | none => simp only [Family.query, live]
  | some connection => rw [query_eq live, query_eq live, query.run_eq_of_steady steady]

/-- Each act gives the same in both modes and leaves the same family. -/
theorem Act.run_eq_of_steady (act : Act) (f : Family τ) :
  act.run ⟨.blocking, t⟩ f = act.run ⟨.background, t⟩ f
  := by
  cases act with
  | ask i query => apply f.query_eq_of_steady steady
  | clone | edit | drop => rfl

theorem Act.deliveries_eq_of_steady (act : Act) (f : Family τ) :
  act.deliveries ⟨.blocking, t⟩ f = act.deliveries ⟨.background, t⟩ f
  := by
  cases act with
  | ask i query => rw [deliveries, f.query_eq_of_steady steady, deliveries]
  | clone | edit | drop => rfl

theorem converse_eq_of_steady
    (caller : Caller) (past : List Outcome) (f : Family τ) (count : Nat) :
  converse ⟨.blocking, t⟩ caller past f count = converse ⟨.background, t⟩ caller past f count
  := by
  induction count generalizing past f with
  | zero => rfl
  | succ count ih =>
    rw [converse, converse]
    cases caller past with
    | none => rfl
    | some act =>
      simp only [act.run_eq_of_steady steady, act.deliveries_eq_of_steady steady]
      apply ih

end Steady

/-- Over a transport that never crashes, whatever a caller does, one act after the other, a blocking
client and one that works in the background give the same answers and make the same calls of the
caller's handlers, act by act; the transport is put to the same uses in the same order, and the
connections are left the same.  What is written down for this, the uses of the transport and the
calls of the handlers, changes nothing else. -/
theorem modes_agree
    {t : Transport τ} (steady : t.Steady) (inner : τ) (properties : Properties) (caller : Caller)
    (count : Nat) :
  let first : Family (τ × List Use) := .start (inner, []) properties
  converse ⟨.blocking, t.recording⟩ caller [] first count
      = converse ⟨.background, t.recording⟩ caller [] first count
    ∧ (∀ mode, converse ⟨mode, t⟩ caller [] (.start inner properties) count
      = ((converse ⟨mode, t.recording⟩ caller [] first count).1,
        (converse ⟨mode, t.recording⟩ caller [] first count).2.unrecorded))
    ∧ ∀ (mode : Mode) (query : Query) (link : Link τ), ending (query.run ⟨mode, t⟩) link
      = (query.unlogged (ending (query.logging.run ⟨mode, t⟩) link).1,
        (ending (query.logging.run ⟨mode, t⟩) link).2)
  := by
  intro first
  refine ⟨?same, ?unrecorded, ?unlogged⟩
  case same => apply converse_eq_of_steady steady.recording
  case unrecorded =>
    intro mode
    apply converse_unrecorded ⟨mode, t⟩ caller [] first
  case unlogged =>
    intro mode query link
    apply query.run_unlogged

/-- A transport that answers each request with its octets. -/
def echoing : Transport Unit where
  send request := pure request
  close := pure ()

/-- A caller who asks with a handler, clones, drops and asks again. -/
def clonesAndDrops : Caller :=
  fun past =>
    [Act.ask 0 (.rowsWith "" Table.counting .zero), .clone 0, .drop 0, .ask 1 (.cells ""),
      .ask 0 (.first "")][past.length]?

theorem modes_agree_echoing :
  echoing.Steady
    ∧ converse ⟨.blocking, echoing.recording⟩ clonesAndDrops [] (.start ((), []) .none) 5
      = converse ⟨.background, echoing.recording⟩ clonesAndDrops [] (.start ((), []) .none) 5
  := by
  have steady : echoing.Steady := by
    intro request s s' crashed
    cases crashed
  exact ⟨steady, (modes_agree steady () .none clonesAndDrops 5).1⟩

end Session

end OlapClient
