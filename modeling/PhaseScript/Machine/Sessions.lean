import PhaseScript.Machine.HostFunctions
import PhaseScript.Http.Session
/-
Sessions that a script makes, if a setting puts their type at its hand. A client that a session is given may be any
value; those that it makes itself have nothing to connect to.
-/
set_option autoImplicit false

namespace PhaseScript.Machine

/-- A parameter that may be given by name alone. -/
def byName (name : String) (default : Value) : FormalParameter Value :=
  ⟨Text.ofString name, .keywordOnly, some default⟩

def sessionSignature : Signature Value :=
  ⟨"HostHttp.__init__", [required "self", byName "client" .none, byName "timeout" .none]⟩

def requestSignature : Signature Value :=
  ⟨"HostHttp.request", [required "self", required "url", byName "method" (.text "GET"), byName "headers" .none,
    byName "body" .none]⟩

def closeSignature : Signature Value := ⟨"HostHttp.close", [required "self"]⟩

namespace Run

/-- A new session, over a client if it is given one. -/
def newSession (args : List Value) (named : List (Text × Value)) : Run Value := do
  let bound ← bindPlain sessionSignature (.none :: args) named
  let timeout ← match boundOne bound 2 with
    | .none => pure none
    | v => do pure (some (← snapshot v))
  match boundOne bound 1 with
  | .none => alloc (.session (.own timeout .unconnected) [])
  | given => alloc (.session (.withClient default timeout .unconnected) [given])

/-- What a session tells of a response. -/
def newAnswer (status headers body reason : Value) : Run Value :=
  alloc (.namespace [("status", status), ("headers", headers), ("body", body), ("reason", reason)])

/-- Sends a request over a client that a session is given. -/
def requestGiven (m : Interp) (client url method headers body : Value) : Run Value := do
  let send ← readAttribute client "request" none
  let method ← callNamed m method "upper" []
  let headers ← if ← truth headers then pure headers else newDict []
  let response ← m.call send [method, url] [("headers", headers), ("content", body)]
  let status ← readAttribute response "status_code" none
  let headers ← m.apply (.type .dict) [← readAttribute response "headers" none]
  let text ← readAttribute response "text" none
  newAnswer status headers text (← readAttribute response "reason_phrase" none)

/-- Sends a request over a client of the session's own. -/
def requestOwn (address : Nat) (s : Http.Session) (clients : List Value) (url method headers body : Value) :
    Run Value := do
  let place := s.connected.2
  let clients ← if place < clients.length then pure clients else do
    pure (clients ++ [← alloc (.client address place)])
  let headers ← ((← entries? headers).getD #[]).toList.mapM fun (name, value) => do
    return (← snapshot name, ← snapshot value)
  let (outcome, s) := s.request (← snapshot method) (← snapshot url) headers (← snapshot body)
  setCell address (.session s clients)
  match outcome with
  | .ok r => do
    let headers ← newDict (r.headers.map fun (name, value) => (.text name, .text value))
    newAnswer (.int r.status) headers (.text r.text) (.text r.reason)
  | .error raised => raiseValue (← exceptionOf raised)

/-- Sends a request over the client that a session has at hand, or over a new one of its own. -/
def requestOver (m : Interp) (address : Nat) (args : List Value) (named : List (Text × Value)) : Run Value := do
  let bound ← bindPlain requestSignature (.ref address :: args) named
  let url := boundOne bound 1
  let method := boundOne bound 2
  let headers := boundOne bound 3
  let body := boundOne bound 4
  match ← cellAt address with
  | .session s clients =>
    match s.given?, s.current, clients with
    | some _, some 0, given :: _ => requestGiven m given url method headers body
    | _, _, _ => requestOwn address s clients url method headers body
  | _ => return .none

/-- Closes a session. -/
def closeSession (address : Nat) (args : List Value) (named : List (Text × Value)) : Run Value := do
  let _ ← bindPlain closeSignature (.ref address :: args) named
  match ← cellAt address with
  | .session s clients => setCell address (.session s.close clients)
  | _ => pure ()
  return .none

end Run

end PhaseScript.Machine
