import PhaseScript.Http.Response
import PhaseScript.Datum.Basic
import PhaseScript.Failure
import PhaseScript.Text.Category
import PhaseScript.Text.Octets
/-
HTTP clients as seen by what sends requests: a client answers a request, knowing the requests before it, with a
response or by raising an exception. Since an answer depends on nothing else, a run is repeatable. What was sent
before a step failed stays sent.
-/
set_option autoImplicit false

namespace PhaseScript.Http

/-- A request as it was handed to the client. Everything but the method is kept as it was given. -/
structure Request where
  /-- The method in capitals, a text or octets. -/
  verb : Datum
  url : Datum
  headers : List (Datum × Datum)
  body : Datum
  deriving Inhabited, Repr

/-- The method as it shows. -/
def Request.method (r : Request) : Text := r.verb.plain

/-- What a client makes of a request. -/
inductive Answer where
  | response (r : Response)
  | raised (kind : ExceptionKind) (args : List Datum)
  deriving Inhabited, Repr

/-- A client: its answer to a request after those before it, the oldest first. -/
structure Client where
  answer : List Request → Request → Answer

instance : Inhabited Client := ⟨⟨fun _ _ => default⟩⟩

instance : Repr Client := ⟨fun _ _ => "client"⟩

/-- A client that has nothing to connect to. -/
def Client.unconnected : Client := ⟨fun _ _ => .raised .connectError [.text "All connection attempts failed"]⟩

/-- The exchange of a client so far, the latest request first. -/
structure Exchange where
  client : Client
  sent : List Request
  deriving Inhabited, Repr

namespace Exchange

/-- The requests sent, the oldest first. -/
def requests (e : Exchange) : List Request := e.sent.reverse

/-- Sends a request. -/
def send (e : Exchange) (r : Request) : Answer × Exchange :=
  (e.client.answer e.requests r, { e with sent := r :: e.sent })

theorem requests_send (e : Exchange) (r : Request) : (e.send r).2.requests = e.requests ++ [r] := by
  simp [send, requests]

end Exchange

/-- A step that may send requests and may raise. -/
abbrev Sending (α : Type) := EStateM Raised Exchange α

/-- A method in capitals: a text, or octets in which the small letters of ASCII are raised. -/
def verbOf (method : Datum) : Except Raised Datum :=
  match method with
  | .text name => .ok (.text name.upper)
  | .bytes octets => .ok (.bytes (octets.map Bytes.toUpper))
  | other => .error (.noAttribute other "upper")

/-- Sends one request and waits for the answer. A method that has no capitals is refused before anything is sent. -/
def request (method url : Datum) (headers : List (Datum × Datum)) (body : Datum) : Sending Response :=
  match verbOf method with
  | .ok verb => fun exchange =>
    match exchange.send ⟨verb, url, headers, body⟩ with
    | (.response r, exchange) => .ok r exchange
    | (.raised kind args, exchange) => .error ⟨kind, args, []⟩ exchange
  | .error raised => throw raised

end PhaseScript.Http
