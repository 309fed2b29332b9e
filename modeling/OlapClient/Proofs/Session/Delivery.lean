import Mathlib.Tactic.Common
import OlapClient.Proofs.Handling.Callbacks
import OlapClient.Proofs.Session.Asking

/-!
# Nothing is delivered from a failed exchange

A request is `Unanswered` when its octets do not get through or the response to them cannot be
read.  A query of an unanswered request ends in the mishap that left it unanswered, and it is
`Withheld` from its handler: no action of the handler is called, and its state is what it was.
-/

namespace OlapClient

open OlapClient.Protocol
open OlapClient.Text

variable {τ σ ω : Type}

theorem Follows.ofHandling
    {view : σ → ω} {action : Handling σ Unit} {other : Handling ω Unit}
    (h : Follows view action other) :
  Follows view (Exchange.ofHandling action) (Exchange.ofHandling other)
  := by
  intro s
  simp only [Exchange.ofHandling, ← h s]
  cases action s <;> rfl

namespace Session

/-- A request over a connection ends in a mishap, and leaves the connection so. -/
inductive Unanswered (client : Client τ) (request : Request) (link : Link τ) :
    Mishap → Link τ → Prop where
  /-- The octets do not get through. -/
  | unsent (mishap : Mishap) {shared : Shared τ}
      (fails : Shared.send client.transport (link.connection.octets request) link.shared
        = .error mishap shared) :
      Unanswered client request link (client.mode.surface mishap)
        ⟨⟨link.connection.properties, link.connection.octets request⟩, shared⟩
  /-- The response cannot be read, or is a fault. -/
  | rejected {response : Octets} {shared : Shared τ} {failure : Failure}
      (sends : Shared.send client.transport (link.connection.octets request) link.shared
        = .ok response shared)
      (rejects : readResponse response request.operation = .error failure) :
      Unanswered client request link (.failed failure)
        ⟨⟨link.connection.properties, link.connection.octets request⟩, shared⟩

theorem Unanswered.ending_ask
    {client : Client τ} {request : Request} {link link' : Link τ} {mishap : Mishap}
    (h : Unanswered client request link mishap link') :
  ending (client.ask request) link = (.error mishap, link')
  := by
  rw [Client.ending_ask]
  cases h with
  | unsent mishap fails => simp [ending, fails, verdict]
  | rejected sends rejects => simp [ending, sends, rejects, verdict, Except.mapError]

/-! ### Queries that write down the calls of their handler -/

theorem Client.follows_feed
    (client : Client τ) (request : Request) {view : σ → ω}
    {read : Markup.Element → Handling σ Unit} {read' : Markup.Element → Handling ω Unit}
    (h : ∀ payload, Follows view (read payload) (read' payload)) :
  Follows (Prod.map id view) (client.feed request read) (client.feed request read')
  := by
  apply Follows.bind
  · apply Follows.onPart (Follows.refl (client.ask request))
    · intro s
      rfl
    · intro s link
      rfl
  · intro payload
    apply Follows.onPart (Follows.ofHandling (h payload))
    · intro s
      rfl
    · intro s handled
      rfl

/-! ### Queries whose request is unanswered -/

/-- A query with a handler ends in a mishap and leaves the connection in a given way, the handler
as it was, and no call behind.  `recording` is the same query where the handler writes down its
calls as well. -/
structure Withheld (link : Link τ) (mishap : Mishap) (link' : Link τ)
    (query : Exchange (Link τ × σ) Unit) (recording : Exchange (Link τ × σ × List ω) Unit) :
    Prop where
  /-- The record of calls changes nothing else, on this connection and on any other. -/
  faithful : Follows (Prod.map id Prod.fst) recording query
  failed : ∀ start, query (link, start) = .error mishap (link', start)
  silent : ∀ start calls, recording (link, start, calls) = .error mishap (link', start, calls)

theorem Unanswered.feed
    {client : Client τ} {request : Request} {link link' : Link τ} {mishap : Mishap}
    (h : Unanswered client request link mishap link') (read : Markup.Element → Handling σ Unit)
    (start : σ) :
  client.feed request read (link, start) = .error mishap (link', start)
  := by
  rw [← ending_eq_error_iff, Client.ending_feed, h.ending_ask]
  rfl

theorem Unanswered.withheld
    {client : Client τ} {request : Request} {link link' : Link τ} {mishap : Mishap}
    (h : Unanswered client request link mishap link') {read : Markup.Element → Handling σ Unit}
    {recording : Markup.Element → Handling (σ × List ω) Unit}
    (faithful : ∀ payload, Follows Prod.fst (recording payload) (read payload)) :
  Withheld link mishap link' (client.feed request read) (client.feed request recording)
  := by
  constructor
  · apply client.follows_feed request faithful
  · apply h.feed read
  · intro start calls
    apply h.feed recording

/-- Where a request is unanswered, every query of it with a handler ends in the mishap that left
it so, without a call of the handler and with the state of the handler as it was. -/
theorem withheld_of_unanswered
    (client : Client τ) (link link' : Link τ) (mishap : Mishap) :
  (∀ statement, Unanswered client (.execute statement .tabular) link mishap link' →
      ∀ handler : Table.RowHandler σ, Withheld link mishap link'
        (client.executeRowsWith statement handler)
        (client.executeRowsWith statement handler.recording))
    ∧ (∀ statement, Unanswered client (.execute statement .multidimensional) link mishap link' →
      ∀ handler : Cube.CellHandler σ, Withheld link mishap link'
        (client.executeCellsWith statement handler)
        (client.executeCellsWith statement handler.recording))
    ∧ ∀ requestType restrictions,
      Unanswered client (.discover requestType restrictions) link mishap link' →
      ∀ handler : Table.RowHandler σ, Withheld link mishap link'
        (client.discoverWith requestType restrictions handler)
        (client.discoverWith requestType restrictions handler.recording)
  := by
  refine ⟨?rows, ?cells, ?lists⟩
  case rows =>
    intro statement h handler
    apply h.withheld (Table.follows_readRowSet handler)
  case cells =>
    intro statement h handler
    apply h.withheld (Cube.follows_readCellSet handler)
  case lists =>
    intro requestType restrictions h handler
    apply h.withheld (Table.follows_readRowSet handler)

/-- A transport that gives the answers prepared for it, one after the other. -/
def prepared : Transport (List (Except Mishap Octets)) where
  send _ := fun
    | [] => .error .crashed []
    | .ok response :: rest => .ok response rest
    | .error mishap :: rest => .error mishap rest
  close := pure ()

/-- A client of a transport with prepared answers. -/
def preparedClient (mode : Mode) : Client (List (Except Mishap Octets)) :=
  ⟨mode, prepared⟩

/-- A connection that has asked nothing, over a transport with one answer. -/
def beforeAnswer (answer : Except Mishap Octets) : Link (List (Except Mishap Octets)) :=
  ⟨.fresh .none, .single [answer]⟩

/-- The connection after a request, over the transport without an answer left. -/
def afterAnswer (request : Request) : Link (List (Except Mishap Octets)) :=
  ⟨⟨.none, Connection.octets (.fresh .none) request⟩, .single []⟩

/-- A response with a fault next to a row. -/
def faultyResponse : Octets :=
  encode ("<s:Envelope xmlns:s=\"http://schemas.xmlsoap.org/soap/envelope/\">"
    ++ "<s:Body><row/><s:Fault/></s:Body></s:Envelope>").toList

/-- The fault of `faultyResponse`. -/
def fault : Fault :=
  ⟨none, none, none, none, "<s:Fault/>"⟩

theorem readResponse_faultyResponse :
  readResponse faultyResponse .execute = .error (.serverFault fault)
  := by
  decide +kernel

/-- A crash that is caught, a fault and an unreachable provider, with nothing delivered. -/
theorem withheld_of_prepared :
  Withheld (beforeAnswer (.error .crashed)) (caught .crashed)
      (afterAnswer (.execute "" .tabular))
      ((preparedClient .background).executeRowsWith "" Table.counting)
      ((preparedClient .background).executeRowsWith "" Table.counting.recording)
    ∧ Withheld (beforeAnswer (.ok faultyResponse)) (.failed (.serverFault fault))
      (afterAnswer (.execute "" .multidimensional))
      ((preparedClient .blocking).executeCellsWith "" Cube.collecting)
      ((preparedClient .blocking).executeCellsWith "" Cube.collecting.recording)
    ∧ Withheld (beforeAnswer (.error (.failed (.transport "unreachable"))))
      (.failed (.transport "unreachable")) (afterAnswer (.discover "" []))
      ((preparedClient .blocking).discoverWith "" [] Table.counting)
      ((preparedClient .blocking).discoverWith "" [] Table.counting.recording)
  := by
  refine ⟨?crashed, ?faulty, ?unreachable⟩
  case crashed =>
    have fails (request : Octets) :
        Shared.send prepared request (.single [.error .crashed]) = .error .crashed (.single []) :=
      rfl
    apply (withheld_of_unanswered _ _ _ _).1
    apply Unanswered.unsent .crashed (fails _)
  case faulty =>
    have sends (request : Octets) :
        Shared.send prepared request (.single [.ok faultyResponse])
          = .ok faultyResponse (.single []) :=
      rfl
    apply (withheld_of_unanswered _ _ _ _).2.1
    apply Unanswered.rejected (sends _)
    apply readResponse_faultyResponse
  case unreachable =>
    have fails (request : Octets) :
        Shared.send prepared request (.single [.error (.failed (.transport "unreachable"))])
          = .error (.failed (.transport "unreachable")) (.single []) :=
      rfl
    apply (withheld_of_unanswered _ _ _ _).2.2
    apply Unanswered.unsent _ (fails _)

end Session

end OlapClient
