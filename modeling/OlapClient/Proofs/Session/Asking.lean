import Mathlib.Tactic.Common
import OlapClient.Proofs.Handling.Callbacks
import OlapClient.Session.Connection

/-!
# Asking over a connection

Whatever a connection holds in its buffer, it asks by handing the octets of one request, written
with its properties into an empty buffer, to the transport that it shares.  What comes of the
question depends on what the transport gives back and on nothing else, and the connection is left
with its properties and those octets.

A read of the result begins after the question is answered, and what it does is all that the
handler of a query comes to know of the exchange.
-/

namespace OlapClient.Session

open OlapClient.Markup
open OlapClient.Protocol
open OlapClient.Text

variable {τ σ : Type}

/-- A mishap of a transport as the caller of a client sees it. -/
def Mode.surface : Mode → Mishap → Mishap
  | .blocking => id
  | .background => caught

/-- The octets that a connection sends to ask for something. -/
def Connection.octets (c : Connection) (request : Request) : Octets :=
  request.write c.properties []

/-- The payload that an operation finds in what a transport gave back. -/
def verdict (mode : Mode) (operation : Operation) : Except Mishap Octets → Except Mishap Element
  | .ok response => (readResponse response operation).mapError .failed
  | .error mishap => .error (mode.surface mishap)

theorem verdict_eq_error_iff
    {mode : Mode} {operation : Operation} {sent : Except Mishap Octets} {mishap : Mishap} :
  verdict mode operation sent = .error mishap
    ↔ (∃ cause, sent = .error cause ∧ mishap = mode.surface cause)
      ∨ ∃ response failure, sent = .ok response
        ∧ readResponse response operation = .error failure ∧ mishap = .failed failure
  := by
  cases sent with
  | error cause => simp [verdict, eq_comm]
  | ok response =>
    cases read : readResponse response operation with
    | ok payload => simp [verdict, read, Except.mapError]
    | error failure => simp [verdict, read, Except.mapError, eq_comm]

/-! ### The exchange of a question -/

namespace Client

theorem sendBuffer_eq (client : Client τ) (link : Link τ) :
  client.sendBuffer link
    = onPart Link.shared Link.withShared
        (Shared.send client.transport link.connection.buffer) link
  := rfl

/-- A round trip in either mode sends the buffer as it is and puts it back. -/
theorem ending_roundTrip (client : Client τ) (connection : Connection) (shared : Shared τ) :
  ending client.roundTrip ⟨connection, shared⟩
    = ((ending (Shared.send client.transport connection.buffer) shared).1.mapError
        client.mode.surface,
      ⟨connection, (ending (Shared.send client.transport connection.buffer) shared).2⟩)
  := by
  obtain ⟨mode, transport⟩ := client
  cases mode with
  | blocking =>
    cases sent : Shared.send transport connection.buffer shared <;>
      simp [ending, roundTrip, sendBuffer_eq, onPart, Link.withShared, sent, Mode.surface,
        Except.mapError]
  | background =>
    cases sent : Shared.send transport connection.buffer shared <;>
      simp [ending, roundTrip, sendTakenBuffer, catching, onPart, Link.withShared,
        Link.withConnection, Connection.withBuffer, Connection.clear, sent, Mode.surface,
        Except.mapError]

/-- A question sends the octets of its request and no others. -/
theorem ending_ask (client : Client τ) (request : Request) (link : Link τ) :
  ending (client.ask request) link
    = (verdict client.mode request.operation
        (ending (Shared.send client.transport (link.connection.octets request)) link.shared).1,
      ⟨⟨link.connection.properties, link.connection.octets request⟩,
        (ending (Shared.send client.transport (link.connection.octets request)) link.shared).2⟩)
  := by
  obtain ⟨⟨properties, buffer⟩, shared⟩ := link
  -- the two changes of the buffer leave the octets of the request in it, whatever it held
  have written : ending (client.ask request) ⟨⟨properties, buffer⟩, shared⟩
      = ending (client.roundTrip >>= fun response =>
          Exchange.ofExcept (readResponse response request.operation))
        ⟨⟨properties, request.write properties []⟩, shared⟩ := rfl
  rcases sent : ending (Shared.send client.transport (request.write properties [])) shared
    with ⟨_ | response, after⟩
  · simp only [written, ending_bind, ending_roundTrip, sent, Connection.octets]
    rfl
  · simp only [written, ending_bind, ending_roundTrip, sent, Connection.octets, Except.mapError,
      verdict]
    cases readResponse response request.operation <;> rfl

end Client

/-! ### What a handler makes of it -/

/-- What comes of passing a payload to a handler that starts in a state, and the state in which
that leaves the handler.  Without a payload nothing is passed. -/
def digest (read : Element → Handling σ Unit) (start : σ) :
    Except Mishap Element → Except Mishap Unit × σ
  | .ok payload =>
    ((ending (read payload) start).1.mapError .failed, (ending (read payload) start).2)
  | .error mishap => (.error mishap, start)

namespace Client

/-- A query leaves the connection as its question does, and the handler as the payload does. -/
theorem ending_feed
    (client : Client τ) (request : Request) (read : Element → Handling σ Unit) (link : Link τ)
    (start : σ) :
  ending (client.feed request read) (link, start)
    = ((digest read start (ending (client.ask request) link).1).1,
      (ending (client.ask request) link).2,
      (digest read start (ending (client.ask request) link).1).2)
  := by
  cases asked : client.ask request link with
  | error mishap link' =>
    simp [ending, feed, onPart, bind, EStateM.bind, asked, digest]
  | ok payload link' =>
    cases done : read payload start <;>
      simp [ending, feed, onPart, bind, EStateM.bind, asked, digest, Exchange.ofHandling, done,
        Except.mapError]

end Client

end OlapClient.Session
