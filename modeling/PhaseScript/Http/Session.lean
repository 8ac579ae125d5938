import PhaseScript.Http.Client
/-
A session over HTTP clients. It is given a client or makes one when the first request is sent; when it is closed, it
closes the client that it made and lets go of one that it was given. A request after that makes a new client.
-/
set_option autoImplicit false

namespace PhaseScript.Http

/-- A client in use. -/
structure Connection where
  /-- How long to wait; a client that was given brings its own. -/
  timeout : Option Datum
  exchange : Exchange
  /-- How many requests had been sent each time the client was closed, the latest time first. -/
  closings : List Nat
  deriving Inhabited, Repr

namespace Connection

/-- Closes the client. -/
def close (c : Connection) : Connection := { c with closings := c.exchange.sent.length :: c.closings }

/-- Whether the client has been closed. -/
def closed (c : Connection) : Bool := !c.closings.isEmpty

end Connection

/-- The time to wait for an answer unless another one is asked for, in seconds. -/
def usualTimeout : Datum := .float (Binary64.ofInt 30)

/-- A session. The connections stand in the order in which they came to it. -/
structure Session where
  timeout : Datum
  /-- Whether the session was given no client and so has those it uses to close. -/
  ownsClients : Bool
  connections : Array Connection
  current : Option Nat
  /-- How the clients that are made answer. -/
  client : Client
  deriving Inhabited, Repr

namespace Session

/-- A session that makes its own clients. -/
def own (timeout : Option Datum) (client : Client) : Session :=
  ⟨timeout.getD usualTimeout, true, #[], none, client⟩

/-- A session over a client that it is given. -/
def withClient (given : Client) (timeout : Option Datum) (client : Client) : Session :=
  ⟨timeout.getD usualTimeout, false, #[⟨none, ⟨given, []⟩, []⟩], some 0, client⟩

/-- The session with a connection at hand, and its place. -/
def connected (s : Session) : Session × Nat :=
  match s.current with
  | some place => (s, place)
  | none =>
    let place := s.connections.size
    ({ s with connections := s.connections.push ⟨some s.timeout, ⟨s.client, []⟩, []⟩, current := some place }, place)

/-- Sends a request over the connection at hand. -/
def request (s : Session) (method url : Datum) (headers : List (Datum × Datum)) (body : Datum) :
    Except Raised Response × Session :=
  let (s, place) := s.connected
  let connection := (s.connections[place]?).getD default
  let (outcome, exchange) := match Http.request method url headers body connection.exchange with
    | .ok response exchange => (.ok response, exchange)
    | .error raised exchange => (.error raised, exchange)
  (outcome, { s with connections := s.connections.setIfInBounds place { connection with exchange } })

/-- Closes the session. -/
def close (s : Session) : Session :=
  let connections := match s.current with
    | some place =>
      if s.ownsClients then
        match s.connections[place]? with
        | some connection => s.connections.setIfInBounds place connection.close
        | none => s.connections
      else s.connections
    | none => s.connections
  { s with connections, current := none }

/-- Leaves the block that the session was entered for, which closes it. -/
def leave (s : Session) : Session := s.close

/-- The connections that the session has made. -/
def made (s : Session) : List Connection := s.connections.toList.filter fun c => c.timeout.isSome

/-- The connection that the session was given. -/
def given? (s : Session) : Option Connection := s.connections.toList.find? fun c => c.timeout.isNone

/-- All requests, by connection. -/
def requests (s : Session) : List Request := s.connections.toList.flatMap fun c => c.exchange.requests

end Session

end PhaseScript.Http
