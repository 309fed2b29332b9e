import OlapClient.Cube.CellSet
import OlapClient.Protocol.Envelope
import OlapClient.Protocol.Request
import OlapClient.Table.RowSet
import OlapClient.Transport.Shared

/-!
# Connections

A `Connection` asks a provider over a shared transport.  It writes each request into a buffer
that it keeps, sends the buffer, and reads the response.  A query passes the result to a
handler, which sees nothing of a response that cannot be read, or collects it.
-/

namespace OlapClient.Session

open OlapClient.Markup
open OlapClient.Protocol
open OlapClient.Text

/-- The properties of a session, and the buffer for its requests. -/
structure Connection where
  properties : Properties
  buffer : Octets
  deriving DecidableEq, Repr

namespace Connection

/-- A connection that has asked nothing. -/
def fresh (properties : Properties) : Connection :=
  ⟨properties, []⟩

/-- The connection with another buffer. -/
def withBuffer (c : Connection) (buffer : Octets) : Connection :=
  ⟨c.properties, buffer⟩

/-- The connection with an empty buffer. -/
def clear (c : Connection) : Connection :=
  c.withBuffer []

/-- The connection with a request written to the end of its buffer. -/
def write (c : Connection) (request : Request) : Connection :=
  c.withBuffer (request.write c.properties c.buffer)

end Connection

/-- A connection with the transport that it shares. -/
structure Link (τ : Type) where
  connection : Connection
  shared : Shared τ
  deriving DecidableEq, Repr

namespace Link

variable {τ : Type}

/-- The connection replaced. -/
def withConnection (l : Link τ) (connection : Connection) : Link τ :=
  ⟨connection, l.shared⟩

/-- The transport replaced. -/
def withShared (l : Link τ) (shared : Shared τ) : Link τ :=
  ⟨l.connection, shared⟩

end Link

/-- Where the exchanges of a client run. -/
inductive Mode where
  /-- On the caller's thread, which a crash of the transport ends. -/
  | blocking
  /-- On a thread of their own, where a crash of the transport is caught. -/
  | background
  deriving DecidableEq, Repr

/-- A transport, and where exchanges over it run. -/
structure Client (τ : Type) where
  mode : Mode
  transport : Transport τ

/-- The failure in place of a crash that is caught. -/
def caught : Mishap → Mishap
  | .failed failure => .failed failure
  | .crashed => .failed (.internal "transport panicked in send")

/-- An exchange in which a crash is caught. -/
def catching {τ α : Type} (action : Exchange τ α) : Exchange τ α :=
  fun s =>
    match action s with
    | .ok a s => .ok a s
    | .error mishap s => .error (caught mishap) s

namespace Client

variable {τ σ : Type}

/-! ### Exchanges -/

/-- Sends the buffer of a connection from where it is. -/
def sendBuffer (client : Client τ) : Exchange (Link τ) Octets := do
  let request := (← get).connection.buffer
  onPart Link.shared Link.withShared (Shared.send client.transport request)

/-- Takes the buffer out of a connection, sends it, and puts it back whatever comes of it. -/
def sendTakenBuffer (client : Client τ) : Exchange (Link τ) Octets :=
  fun link =>
    let request := link.connection.buffer
    let taken := link.withConnection link.connection.clear
    let restore (link : Link τ) : Link τ :=
      link.withConnection (link.connection.withBuffer request)
    match catching (onPart Link.shared Link.withShared (Shared.send client.transport request))
        taken with
    | .ok response link => .ok response (restore link)
    | .error mishap link => .error mishap (restore link)

/-- Sends the buffer of a connection and gives the response. -/
def roundTrip (client : Client τ) : Exchange (Link τ) Octets :=
  match client.mode with
  | .blocking => client.sendBuffer
  | .background => client.sendTakenBuffer

/-- Asks a provider and gives the payload of its response. -/
def ask (client : Client τ) (request : Request) : Exchange (Link τ) Element := do
  modify fun link => link.withConnection link.connection.clear
  modify fun link => link.withConnection (link.connection.write request)
  let response ← client.roundTrip
  Exchange.ofExcept (readResponse response request.operation)

/-- Asks a provider and passes the result to a handler. -/
def feed (client : Client τ) (request : Request) (read : Element → Handling σ Unit) :
    Exchange (Link τ × σ) Unit := do
  let payload ← onPart Prod.fst (fun s link => (link, s.2)) (client.ask request)
  onPart Prod.snd (fun s handled => (s.1, handled)) (Exchange.ofHandling (read payload))

/-- The state in which a query leaves a handler that starts in a given state. -/
def collect (query : Exchange (Link τ × σ) Unit) (start : σ) : Exchange (Link τ) σ :=
  fun link =>
    match query (link, start) with
    | .ok _ (link, handled) => .ok handled link
    | .error mishap (link, _) => .error mishap link

/-! ### Queries -/

/-- Runs a statement and passes its multidimensional result to a handler. -/
def executeCellsWith (client : Client τ) (statement : String) (handler : Cube.CellHandler σ) :
    Exchange (Link τ × σ) Unit :=
  client.feed (.execute statement .multidimensional) (Cube.readCellSet handler)

/-- Runs a statement and passes its tabular result to a handler. -/
def executeRowsWith (client : Client τ) (statement : String) (handler : Table.RowHandler σ) :
    Exchange (Link τ × σ) Unit :=
  client.feed (.execute statement .tabular) (Table.readRowSet handler)

/-- Lists metadata and passes the list to a handler. -/
def discoverWith (client : Client τ) (requestType : String)
    (restrictions : List (String × String)) (handler : Table.RowHandler σ) :
    Exchange (Link τ × σ) Unit :=
  client.feed (.discover requestType restrictions) (Table.readRowSet handler)

/-- Runs a statement for its multidimensional result. -/
def execute (client : Client τ) (statement : String) : Exchange (Link τ) Cube.CellSet :=
  collect (client.executeCellsWith statement Cube.collecting) .empty

/-- Runs a statement for its tabular result. -/
def executeRows (client : Client τ) (statement : String) : Exchange (Link τ) Table.RowSet :=
  collect (client.executeRowsWith statement Table.collecting) .empty

/-- Runs a statement for the values of the first row of its result, if it has a row. -/
def executeFirst (client : Client τ) (statement : String) :
    Exchange (Link τ) (Option (List Value)) := do
  let first ← collect (client.executeRowsWith statement (Table.firstRow Table.collecting))
    ⟨.empty, false⟩
  match first.inner.allRows.head? with
  | some row => some <$> Exchange.ofExcept row.values
  | none => return none

/-- Lists metadata. -/
def discover (client : Client τ) (requestType : String) (restrictions : List (String × String)) :
    Exchange (Link τ) Table.RowSet :=
  collect (client.discoverWith requestType restrictions Table.collecting) .empty

end Client

end OlapClient.Session
