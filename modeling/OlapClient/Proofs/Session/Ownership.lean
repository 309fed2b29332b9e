import Mathlib.Tactic.Common
import OlapClient.Proofs.Session.Delivery
import OlapClient.Proofs.Session.Failures
import OlapClient.Proofs.Session.Recording
import OlapClient.Proofs.Table.Fidelity
import OlapClient.Session.Family

/-!
# The connections of a family own their transport together

An `Act` is a use of a family: a connection is cloned, asked, given other properties or dropped.
Each act on a connection in use calls the shared transport at most once, and `shared_run` says with
which call.  From it, two facts are kept by every act and so hold after any acts: the transport
counts one owner for each connection in use, and it has been closed once if none is in use, and
never before.

`Family.owned_together` adds when a connection in use calls the transport closed: a clone never
does while there is room, and a query does exactly where the transport itself says so, or a call
that it makes of the caller's own handler.
-/

namespace OlapClient.Session

open OlapClient.Number
open OlapClient.Protocol
open OlapClient.Text

variable {τ : Type}

/-! ### Places of a family -/

namespace Family

theorem connection?_eq_some_iff {f : Family τ} {i : Nat} {connection : Connection} :
  f.connection? i = some connection ↔ f.connections[i]? = some (some connection)
  := by
  simp [connection?, Option.join_eq_some_iff]

/-- A connection in use counts. -/
theorem liveCount_ne_zero
    {f : Family τ} {i : Nat} {connection : Connection} (live : f.connection? i = some connection) :
  f.liveCount ≠ 0
  := by
  have mem := List.mem_of_getElem? (connection?_eq_some_iff.mp live)
  apply Nat.pos_iff_ne_zero.mp
  apply List.countP_pos_iff.mpr
  exact ⟨_, mem, rfl⟩

/-- Another connection in place of one in use changes nothing of the count; none in its place
lowers it by one. -/
theorem liveCount_set
    {f : Family τ} {i : Nat} {connection : Connection} (live : f.connection? i = some connection)
    (shared : Shared τ) (other : Option Connection) :
  liveCount ⟨shared, f.connections.set i other⟩
    = f.liveCount - 1 + if other.isSome then 1 else 0
  := by
  obtain ⟨inside, here⟩ := List.getElem?_eq_some_iff.mp (connection?_eq_some_iff.mp live)
  rw [liveCount, List.countP_set inside, here]
  rfl

theorem liveCount_append (f : Family τ) (shared : Shared τ) (connection : Connection) :
  liveCount ⟨shared, f.connections ++ [some connection]⟩ = f.liveCount + 1
  := by
  simp [liveCount]

theorem query_eq
    {α : Type} {f : Family τ} {i : Nat} {connection : Connection}
    (live : f.connection? i = some connection) (ask : Exchange (Link τ) α) :
  f.query i ask
    = (some (ending ask ⟨connection, f.shared⟩).1,
      ⟨(ending ask ⟨connection, f.shared⟩).2.shared,
        f.connections.set i (some (ending ask ⟨connection, f.shared⟩).2.connection)⟩)
  := by
  cases asked : ask ⟨connection, f.shared⟩ <;> simp [query, live, ending, asked]

/-- A family without the record of the uses of its transport. -/
def unrecorded (f : Family (τ × List Use)) : Family τ :=
  ⟨f.shared.unrecorded, f.connections⟩

end Family

/-! ### Acts -/

/-- A use of a family of connections. -/
inductive Act : Type 1 where
  | clone (i : Nat)
  | ask (i : Nat) (query : Query)
  | edit (i : Nat) (properties : Properties)
  | drop (i : Nat)

namespace Act

/-- What an act gives back. -/
def Answer : Act → Type
  | clone _ => Except Failure Nat
  | ask _ query => Except Mishap query.Result
  | edit _ _ => Unit
  | drop _ => Unit

/-- The answer to an act, none if its connection is not in use, and the family after it. -/
def run (client : Client τ) (f : Family τ) : (act : Act) → Option act.Answer × Family τ
  | clone i => f.clone i
  | ask i query => f.query i (query.run client)
  | edit i properties => ((f.connection? i).map fun _ => (), f.setProperties i properties)
  | drop i => ((f.connection? i).map fun _ => (), f.drop client.transport i)

/-- The family after acts. -/
def final (client : Client τ) (f : Family τ) : List Act → Family τ
  | [] => f
  | act :: rest => final client (act.run client f).2 rest

/-- The answers to acts. -/
def answers (client : Client τ) (f : Family τ) : List Act → List ((act : Act) × Option act.Answer)
  | [] => []
  | act :: rest => ⟨act, (act.run client f).1⟩ :: answers client (act.run client f).2 rest

/-- The calls that an act makes of a handler of the caller. -/
def deliveries (client : Client τ) (f : Family τ) : Act → List Delivery
  | ask i query =>
    match (f.query i (query.logging.run client)).1 with
    | some answer => query.deliveries answer
    | none => []
  | _ => []

/-- The last connection in use is dropped. -/
def isLast (f : Family τ) : Act → Bool
  | drop i => (f.connection? i).isSome && f.liveCount == 1
  | _ => false

/-! ### The call of an act -/

/-- The place of the connection that an act is about. -/
def place : Act → Nat
  | clone i => i
  | ask i _ => i
  | edit i _ => i
  | drop i => i

/-- What an act of a connection does with the shared transport, if anything. -/
def callOf (connection : Connection) : Act → Option Shared.Call
  | clone _ => some .retain
  | ask _ query => some (.send (connection.octets query.request))
  | edit _ _ => none
  | drop _ => some .release

/-- What an act does with the shared transport of a family, if anything. -/
def call? (f : Family τ) (act : Act) : Option Shared.Call :=
  (f.connection? act.place).bind fun connection => act.callOf connection

/-- An act of a connection that is not in use does nothing. -/
theorem run_of_unused
    (client : Client τ) {f : Family τ} {act : Act} (unused : f.connection? act.place = none) :
  (act.run client f).2 = f
  := by
  cases act <;> simp only [place] at unused <;>
    simp only [run, Family.clone, Family.query, Family.setProperties, Family.drop, unused]

theorem shared_run (client : Client τ) (f : Family τ) (act : Act) :
  (act.run client f).2.shared
    = match act.call? f with
      | some call => (Shared.step client.transport f.shared call).after
      | none => f.shared
  := by
  cases live : f.connection? act.place with
  | none => rw [run_of_unused client live, call?, live, Option.bind_none]
  | some connection =>
    rw [call?, live, Option.bind_some]
    cases act with
    | clone i =>
      simp only [place] at live
      cases retained : Shared.retain f.shared <;>
        simp [run, Family.clone, callOf, live, Shared.step, Shared.Step.ofResult, retained]
    | ask i query =>
      simp only [place] at live
      simp only [run, Family.query_eq live, Query.run_eq, Client.ending_ask, callOf]
      cases sent : Shared.send client.transport (connection.octets query.request) f.shared <;>
        simp [Shared.step, Shared.Step.ofResult, ending, sent]
    | edit i properties =>
      simp only [place] at live
      simp only [run, Family.setProperties, Family.put, live, callOf]
    | drop i =>
      simp only [place] at live
      cases released : Shared.release client.transport f.shared <;>
        simp [run, Family.drop, callOf, live, Shared.step, Shared.Step.ofResult,
          Handling.outcome, released]

theorem liveCount_ne_zero_of_call?
    {f : Family τ} {act : Act} {call : Shared.Call} (calls : act.call? f = some call) :
  f.liveCount ≠ 0
  := by
  obtain ⟨connection, live, -⟩ := Option.bind_eq_some_iff.mp calls
  apply Family.liveCount_ne_zero live

/-- The last connection in use is dropped exactly when the last owner is released. -/
theorem isLast_step
    (t : Transport τ) {f : Family τ} (counted : f.shared.owners = f.liveCount) {act : Act}
    {call : Shared.Call} (calls : act.call? f = some call) :
  (Shared.step t f.shared call).isLast = act.isLast f
  := by
  have last : (Shared.step t f.shared call).isLast
      = (call == .release && f.shared.owners == 1) := by
    rw [Shared.Step.isLast, Shared.before_step, Shared.call_step]
  obtain ⟨connection, live, called⟩ := Option.bind_eq_some_iff.mp calls
  cases act with
  | clone i =>
    cases called
    rw [last]
    rfl
  | ask i query =>
    cases called
    rw [last]
    rfl
  | edit i properties => cases called
  | drop i =>
    simp only [place] at live
    cases called
    rw [last, isLast, live, counted]
    rfl

theorem isLast_of_not_call? {f : Family τ} {act : Act} (h : act.call? f = none) :
  act.isLast f = false
  := by
  cases act with
  | clone i => rfl
  | ask i query => rfl
  | edit i properties => rfl
  | drop i =>
    cases live : f.connection? i with
    | none =>
      rw [isLast, live]
      rfl
    | some connection => simp [call?, place, callOf, live] at h

/-! ### One act -/

/-- A transport that counts its owners right goes on to do so. -/
theorem counted_run
    (client : Client τ) {f : Family τ} (counted : f.shared.owners = f.liveCount) (act : Act) :
  (act.run client f).2.shared.owners = (act.run client f).2.liveCount
  := by
  cases live : f.connection? act.place with
  | none =>
    rw [run_of_unused client live]
    apply counted
  | some connection =>
    have positive := Family.liveCount_ne_zero live
    cases act with
    | clone i =>
      simp only [place] at live
      by_cases refuses : f.shared.isClosed ∨ maxSize ≤ f.shared.owners
      · simp only [run, Family.clone, live, Shared.retain, if_pos refuses]
        apply counted
      · simp only [run, Family.clone, live, Shared.retain, if_neg refuses,
          Family.liveCount_append]
        rw [counted]
    | ask i query =>
      simp only [place] at live
      rw [run, Family.query_eq live]
      simp only [query.owners_run, Family.liveCount_set live, Option.isSome_some, if_true]
      omega
    | edit i properties =>
      simp only [place] at live
      simp only [run, Family.setProperties, live, Family.put, Family.liveCount_set live,
        Option.isSome_some, if_true]
      omega
    | drop i =>
      simp only [place] at live
      simp only [run, Family.drop, live, Family.liveCount_set live, outcome_eq_ending,
        Shared.owners_release, counted, Option.isSome_none, Bool.false_eq_true, if_false,
        Nat.add_zero]

/-- The drop of the last connection in use closes the transport once, and no other act does. -/
theorem closings_run
    (client : Client τ) {f : Family (τ × List Use)} (counted : f.shared.owners = f.liveCount)
    (act : Act) :
  (act.run client.recording f).2.shared.uses.count .closed
    = f.shared.uses.count .closed + if act.isLast f then 1 else 0
  := by
  rw [shared_run]
  cases calls : act.call? f with
  | none => simp [isLast_of_not_call? calls]
  | some call =>
    have closings := (Shared.step_moves client.recording.transport f.shared call).closings
    rw [Shared.before_step, isLast_step _ counted calls] at closings
    apply closings

end Act

/-! ### Any acts -/

namespace Family

/-- The transport of a family counts one owner for each connection in use.  It has been closed
once if none is in use, and has not been closed otherwise. -/
structure Owned (f : Family (τ × List Use)) : Prop where
  counted : f.shared.owners = f.liveCount
  closings : f.shared.uses.count .closed = if f.liveCount = 0 then 1 else 0

theorem owned_start (inner : τ) (properties : Properties) :
  (start (inner, ([] : List Use)) properties).Owned
  := by
  constructor <;> rfl

theorem Owned.run (client : Client τ) {f : Family (τ × List Use)} (h : f.Owned) (act : Act) :
  (act.run client.recording f).2.Owned
  := by
  have counted := act.counted_run client.recording h.counted
  constructor
  · apply counted
  · rw [act.closings_run client h.counted, h.closings, ← counted, act.shared_run]
    cases calls : act.call? f with
    | none => simp [Act.isLast_of_not_call? calls, h.counted]
    | some call =>
      have last := (Shared.step_moves client.recording.transport f.shared call).isLast_iff
      rw [Shared.before_step, Act.isLast_step _ h.counted calls, h.counted] at last
      simp [Act.liveCount_ne_zero_of_call? calls, last]

theorem Owned.final
    (client : Client τ) {f : Family (τ × List Use)} (h : f.Owned) (acts : List Act) :
  (Act.final client.recording f acts).Owned
  := by
  induction acts generalizing f with
  | nil => apply h
  | cons act acts ih => apply ih (h.run client act)

end Family

/-! ### Clones -/

/-- While there is room for another connection, a connection in use can be cloned. -/
theorem Family.clone_eq_ok
    {f : Family τ} (counted : f.shared.owners = f.liveCount) {i : Nat} {connection : Connection}
    (live : f.connection? i = some connection) (room : f.liveCount < maxSize) :
  (f.clone i).1 = some (.ok f.connections.length)
  := by
  have positive := liveCount_ne_zero live
  have allows : ¬ (f.shared.isClosed ∨ maxSize ≤ f.shared.owners) := by
    simp only [Shared.isClosed, counted, beq_iff_eq, not_or]
    omega
  simp only [clone, live, Shared.retain, if_neg allows]

/-! ### Queries -/

theorem Act.deliveries_ask
    (client : Client τ) {f : Family τ} {i : Nat} {connection : Connection} (query : Query)
    (live : f.connection? i = some connection) :
  (ask i query).deliveries client f
    = query.deliveries (ending (query.logging.run client) ⟨connection, f.shared⟩).1
  := by rw [deliveries, Family.query_eq live]

/-- A query over a connection in use is answered, and says that the transport is closed exactly where
the transport itself does or a call of the caller's own handler that the query makes. -/
theorem Family.exists_answer
    (client : Client τ) {f : Family τ} {i : Nat} {connection : Connection} (query : Query)
    (live : f.connection? i = some connection) (owned : f.shared.owners ≠ 0) :
  ∃ answer, (f.query i (query.run client)).1 = some answer
    ∧ (query.status answer = .error (.failed .handleClosed) ↔
      query.response client connection f.shared.inner = .error (.failed .handleClosed)
        ∨ ∃ made ∈ (Act.ask i query).deliveries client f, made.result = .error .handleClosed)
  := by
  rw [query_eq live, Act.deliveries_ask client query live]
  use (ending (query.run client) ⟨connection, f.shared⟩).1, rfl
  apply query.eq_handleClosed_iff client owned

/-! ### Families without the record of uses -/

namespace Family

theorem connection?_unrecorded (f : Family (τ × List Use)) (i : Nat) :
  f.unrecorded.connection? i = f.connection? i
  := rfl

theorem clone_unrecorded (f : Family (τ × List Use)) (i : Nat) :
  f.unrecorded.clone i = ((f.clone i).1, (f.clone i).2.unrecorded)
  := by
  have retains : viewed Shared.unrecorded (Shared.retain f.shared)
      = Shared.retain f.unrecorded.shared := Shared.follows_retain f.shared
  cases live : f.connection? i with
  | none => simp only [clone, connection?_unrecorded, live]
  | some connection =>
    simp only [clone, connection?_unrecorded, live, ← retains]
    cases Shared.retain f.shared <;> rfl

theorem query_unrecorded (client : Client τ) (f : Family (τ × List Use)) (i : Nat) (query : Query) :
  f.unrecorded.query i (query.run client)
    = ((f.query i (query.run client.recording)).1,
      (f.query i (query.run client.recording)).2.unrecorded)
  := by
  cases live : f.connection? i with
  | none => simp only [Family.query, connection?_unrecorded, live]
  | some connection =>
    have asks : ending (query.run client) ⟨connection, f.unrecorded.shared⟩ = _ :=
      query.ending_run_unrecorded client ⟨connection, f.shared⟩
    have live' : f.unrecorded.connection? i = some connection := live
    rw [query_eq live, query_eq live', asks]
    rfl

theorem setProperties_unrecorded
    (f : Family (τ × List Use)) (i : Nat) (properties : Properties) :
  f.unrecorded.setProperties i properties = (f.setProperties i properties).unrecorded
  := by
  cases live : f.connection? i with
  | none => simp only [setProperties, connection?_unrecorded, live]
  | some connection =>
    simp only [setProperties, connection?_unrecorded, live]
    rfl

theorem drop_unrecorded (t : Transport τ) (f : Family (τ × List Use)) (i : Nat) :
  f.unrecorded.drop t i = (f.drop t.recording i).unrecorded
  := by
  have releases : ending (Shared.release t) f.unrecorded.shared = _ :=
    (Shared.follows_release t).ending_eq f.shared
  cases live : f.connection? i with
  | none => simp only [drop, connection?_unrecorded, live]
  | some connection =>
    simp only [drop, connection?_unrecorded, live, outcome_eq_ending, releases]
    rfl

end Family

namespace Act

theorem run_unrecorded (client : Client τ) (f : Family (τ × List Use)) (act : Act) :
  act.run client f.unrecorded
    = ((act.run client.recording f).1, (act.run client.recording f).2.unrecorded)
  := by
  cases act with
  | clone i => apply f.clone_unrecorded
  | ask i query => apply f.query_unrecorded client
  | edit i properties =>
    rw [run, f.setProperties_unrecorded]
    rfl
  | drop i =>
    rw [run, f.drop_unrecorded]
    rfl

/-- The record of uses changes no answer and leaves no other family. -/
theorem final_unrecorded (client : Client τ) (f : Family (τ × List Use)) (acts : List Act) :
  answers client f.unrecorded acts = answers client.recording f acts
    ∧ final client f.unrecorded acts = (final client.recording f acts).unrecorded
  := by
  induction acts generalizing f with
  | nil => exact ⟨rfl, rfl⟩
  | cons act acts ih =>
    obtain ⟨later, last⟩ := ih (act.run client.recording f).2
    constructor
    · rw [answers, answers, run_unrecorded, later]
    · rw [final, final, run_unrecorded, last]

end Act

/-! ### Owned together -/

/-- The connections of a family own their transport together, whatever is done with them next. -/
structure Family.OwnedTogether (client : Client τ) (f : Family (τ × List Use)) : Prop
    extends f.Owned where
  /-- What closes the transport is the drop of the last connection in use. -/
  closing : ∀ act : Act, (act.run client.recording f).2.shared.uses.count .closed
    = f.shared.uses.count .closed + if act.isLast f then 1 else 0
  /-- While there is room, a connection in use can be cloned. -/
  cloned : ∀ i connection, f.connection? i = some connection → f.liveCount < maxSize →
    (f.clone i).1 = some (.ok f.connections.length)
  /-- A query over a connection in use is answered.  The answer says that the transport is closed
  exactly where the transport itself does, or where a call of the caller's own handler does that
  this query makes. -/
  answered : ∀ i connection (query : Query), f.connection? i = some connection →
    ∃ answer, (f.unrecorded.query i (query.run client)).1 = some answer
      ∧ (query.status answer = .error (.failed .handleClosed) ↔
        query.response client connection f.shared.inner.1 = .error (.failed .handleClosed)
          ∨ ∃ made ∈ (Act.ask i query).deliveries client f.unrecorded,
            made.result = .error .handleClosed)

/-- Whatever a family that begins with one connection has done, its connections own the transport
together.  That the transport is a recording one changes no answer and leaves no other family. -/
theorem Family.owned_together
    (client : Client τ) (inner : τ) (properties : Properties) (acts : List Act) :
  let f := Act.final client.recording (start (inner, []) properties) acts
  f.OwnedTogether client
    ∧ Act.final client (start inner properties) acts = f.unrecorded
    ∧ Act.answers client (start inner properties) acts
      = Act.answers client.recording (start (inner, []) properties) acts
  := by
  intro f
  have owned : f.Owned := (owned_start inner properties).final client acts
  obtain ⟨answers, last⟩ := Act.final_unrecorded client (start (inner, []) properties) acts
  refine ⟨⟨owned, ?closing, ?cloned, ?answered⟩, last, answers⟩
  case closing => apply Act.closings_run client owned.counted
  case cloned =>
    intro i connection live
    apply clone_eq_ok owned.counted live
  case answered =>
    intro i connection query live
    have counted : f.shared.owners ≠ 0 := by
      rw [owned.counted]
      apply liveCount_ne_zero live
    exact exists_answer client query live counted

/-- A handler that calls the transport closed as soon as it is told of columns. -/
def refusing : Table.RowHandler Unit where
  onColumns _ := throw .handleClosed
  onRow _ _ := pure ()
  onFinish := pure ()

/-- A query with such a handler. -/
def refused : Query :=
  .rowsWith "" refusing ()

/-- A table without columns and rows. -/
def blankGrid : Table.Grid :=
  ⟨[], []⟩

/-- A response that carries such a table. -/
def blankTable : Octets :=
  encode (blankGrid.document .execute)

theorem readResponse_blankTable :
  readResponse blankTable .execute = .ok blankGrid.returnTree
  := by
  apply Table.Grid.readResponse_document
  intro heading among
  cases among

/-- A family of one connection over a transport that has one response to give. -/
def beforeBlankTable : Family (List (Except Mishap Octets)) :=
  .start [.ok blankTable] .none

theorem deliveries_refused :
  (Act.ask 0 refused).deliveries (preparedClient .blocking) beforeBlankTable
    = [.inl ⟨.columns [], .error .handleClosed⟩]
  := by
  have live : beforeBlankTable.connection? 0 = some (.fresh .none) := rfl
  have asked : (ending ((preparedClient .blocking).ask refused.logging.request)
      ⟨.fresh .none, beforeBlankTable.shared⟩).1 = .ok blankGrid.returnTree := by
    rw [Client.ending_ask]
    apply mapError_eq_ok_iff.mpr readResponse_blankTable
  rw [Act.deliveries_ask _ refused live, Query.run_eq, asked]
  rfl

/-- The caller's own handler can call a transport closed that is open and gives a response, and the
query then says so. -/
theorem Family.called_closed_by_handler :
  beforeBlankTable.connection? 0 = some (.fresh .none)
    ∧ refused.response (preparedClient .blocking) (.fresh .none) [.ok blankTable] = .ok blankTable
    ∧ ∃ answer, (beforeBlankTable.query 0 (refused.run (preparedClient .blocking))).1 = some answer
      ∧ refused.status answer = .error (.failed .handleClosed)
  := by
  have live : beforeBlankTable.connection? 0 = some (.fresh .none) := rfl
  obtain ⟨answer, answered, closed_iff⟩ :=
    exists_answer (preparedClient .blocking) refused live (by decide)
  refine ⟨live, rfl, answer, answered, closed_iff.mpr (.inr ?_)⟩
  rw [deliveries_refused]
  exact ⟨_, List.mem_singleton_self _, rfl⟩

end OlapClient.Session
