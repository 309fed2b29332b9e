import OlapClient.Http.Endpoint
import OlapClient.Session.Connection

/-!
# Families of connections

The connections that share a transport are a `Family`.  Each connection in use is one owner of
the transport, so the transport is closed when the last of them is dropped.
-/

namespace OlapClient.Session

open OlapClient.Protocol

/-- The connections that share a transport, in the order in which they were made; none in place
of a connection that was dropped. -/
structure Family (τ : Type) where
  shared : Shared τ
  connections : List (Option Connection)
  deriving DecidableEq, Repr

namespace Family

variable {τ α : Type}

/-- The family of one connection. -/
def start (inner : τ) (properties : Properties) : Family τ :=
  ⟨.single inner, [some (.fresh properties)]⟩

/-- A connection of the family that is in use. -/
def connection? (f : Family τ) (i : Nat) : Option Connection :=
  (f.connections[i]?).join

/-- The number of connections in use. -/
def liveCount (f : Family τ) : Nat :=
  f.connections.countP Option.isSome

/-- The family with another connection at a place. -/
def put (f : Family τ) (i : Nat) (connection : Option Connection) : Family τ :=
  ⟨f.shared, f.connections.set i connection⟩

/-- Sets the properties of a connection in use. -/
def setProperties (f : Family τ) (i : Nat) (properties : Properties) : Family τ :=
  match f.connection? i with
  | some connection => f.put i (some ⟨properties, connection.buffer⟩)
  | none => f

/-- Asks over a connection; no answer if it is not in use. -/
def query (f : Family τ) (i : Nat) (ask : Exchange (Link τ) α) :
    Option (Except Mishap α) × Family τ :=
  match f.connection? i with
  | none => (none, f)
  | some connection =>
    let left (link : Link τ) : Family τ :=
      ⟨link.shared, f.connections.set i (some link.connection)⟩
    match ask ⟨connection, f.shared⟩ with
    | .ok a link => (some (.ok a), left link)
    | .error mishap link => (some (.error mishap), left link)

/-- Adds a connection with the properties of one in use and gives its place; no answer if that
one is not in use. -/
def clone (f : Family τ) (i : Nat) : Option (Except Failure Nat) × Family τ :=
  match f.connection? i with
  | none => (none, f)
  | some connection =>
    match Shared.retain f.shared with
    | .ok _ shared =>
      (some (.ok f.connections.length),
        ⟨shared, f.connections ++ [some (.fresh connection.properties)]⟩)
    | .error failure shared => (some (.error failure), ⟨shared, f.connections⟩)

/-- Drops a connection in use.  A failure to close the transport is passed over. -/
def drop (t : Transport τ) (f : Family τ) (i : Nat) : Family τ :=
  match f.connection? i with
  | none => f
  | some _ => ⟨((Shared.release t).outcome f.shared).2, f.connections.set i none⟩

/-- Drops all connections in use. -/
def dropAll (t : Transport τ) (f : Family τ) : Family τ :=
  (List.range f.connections.length).foldl (drop t) f

end Family

/-- A connection to the provider at a URL, over a network. -/
def connect {ν : Type} (network : ν) (url : String) : Except Failure (Family (Http.Endpoint × ν)) := do
  let settings ← Settings.read url
  let endpoint ← Http.Endpoint.ofSettings settings
  return .start (endpoint, network) settings.properties

end OlapClient.Session
