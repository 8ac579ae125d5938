import PhaseScript.Service.Logger
import PhaseScript.Service.Storage
import PhaseScript.Rpc.Channel
import PhaseScript.Phase
/-
The service: which paths it answers on, and what it tells of requests that it does not carry out. The logger and the
storage tell such things in members of their own; all other paths tell them as a detail.
-/
set_option autoImplicit false

namespace PhaseScript

/-- What the service keeps between requests. -/
structure ServiceState (σ : Type) where
  store : σ
  /-- The lines logged so far, the oldest first. -/
  log : List Service.LogRecord
  /-- What scripts have sent, the oldest first. -/
  sent : List Http.Request

/-- The service over a store. -/
structure Service (σ : Type) where
  store : KeyValueStore σ
  /-- What keeps the service from being ready. -/
  failures : Storing σ (List Text)
  /-- Whether failures within the service are told in its answers. -/
  tellsFailures : Bool
  /-- Where the paths of plugins and probes begin. -/
  apiRoot : Text

namespace Service

/-- What the service is asked for by a path. -/
inductive Endpoint where
  | liveness
  | readiness
  | plugin (phase : Text)
  | logger
  | storage
  deriving DecidableEq, Repr, Inhabited

/-- The one method of an endpoint. -/
def Endpoint.method : Endpoint → Text
  | .liveness | .readiness => "GET"
  | _ => "POST"

/-- The endpoint at exactly this path; one line end after a fixed path is passed over. -/
def endpointAt? (apiRoot path : Text) : Option Endpoint :=
  let line := [Point.ofChar '\n']
  let is (known : Text) : Bool := path == known || path == known ++ line
  let plugins := apiRoot ++ "/plugins/"
  if is (apiRoot ++ "/utils/liveness/") then some .liveness
  else if is (apiRoot ++ "/utils/health-check/") then some .readiness
  else if is Rpc.loggerPath then some .logger
  else if is Rpc.storagePath then some .storage
  else if Text.startsWith path plugins then
    let name := path.drop plugins.length
    if name.isEmpty || name.any (·.is '/') then none else some (.plugin name)
  else none

/-- The path with a slash at its end if it has none, and without if it has. -/
def otherSpelling (path : Text) : Text :=
  if Text.endsWith path "/" then Text.dropEndWhile (·.is '/') path else path ++ "/"

/-- The endpoint that a path leads to, perhaps by its other spelling. -/
def endpoint? (apiRoot path : Text) : Option Endpoint :=
  (endpointAt? apiRoot path).or (if path.is "/" then none else endpointAt? apiRoot (otherSpelling path))

/-- Why a request is not carried out. -/
inductive Problem where
  | notFound
  | wrongMethod
  | body (fault : BodyFault)
  | phase
  /-- The service itself failed, in words of its own if there are any. -/
  | failed (message : Option Text)
  deriving DecidableEq, Repr

/-- Whether a path is that of a remote call. -/
def isRpcPath (path : Text) : Bool := Text.startsWith path "/apis/"

/-- What is wrong, told in the way that the path asks for. -/
def complaintAnswer (path : Text) (status : Nat) (error words : Text) : Outgoing :=
  .ofJson status (.object (if isRpcPath path then [("error", .string error), ("error_description", .string words)]
    else [("detail", .string words)]))

/-- A plain detail, the same on every path. -/
def detailAnswer (status : Nat) (words : Text) : Outgoing := .ofJson status (.object [("detail", .string words)])

/-- What is told of a failure of the service. Telling it fails in turn if there are no words for it or they cannot
stand in an answer; nothing is left then but the status. -/
def failureAnswer (path : Text) (tellsFailures : Bool) (message : Option Text) : Outgoing :=
  let words : Text := "Internal server error"
  if !tellsFailures then complaintAnswer path 500 "internal_error" words
  else match message.filter Text.isScalar with
    | some message => complaintAnswer path 500 "internal_error" (words ++ ": " ++ message)
    | none => ⟨500, none, []⟩

/-- The answer that tells of a problem. -/
def Problem.answer (path : Text) (tellsFailures : Bool) : Problem → Outgoing
  | .notFound => detailAnswer 404 "Not Found"
  | .wrongMethod => detailAnswer 405 "Method Not Allowed"
  | .body .unreadable => detailAnswer 400 "There was an error parsing the body"
  | .body (.invalid complaints) =>
    complaintAnswer path 422 "invalid_request" (Text.join "; " (complaints.map Complaint.line))
  | .phase =>
    complaintAnswer path 422 "invalid_request"
      "path.phase: Input should be 'validate', 'request', 'backend_call', 'response' or 'error'"
  | .failed message => failureAnswer path tellsFailures message

/-- A step of the service. -/
abbrev Serving (σ α : Type) := EStateM Problem (ServiceState σ) α

/-- Runs a step on the store. -/
def onStore {σ α : Type} (step : Storing σ α) : Serving σ α := fun s =>
  match step s.store with
  | .ok a store => .ok a { s with store }
  | .error raised store => .error (.failed raised.message?) { s with store }

/-- Logs what a request asks for. -/
def answerLogger {σ : Type} (request : Incoming) : Serving σ Outgoing :=
  match readBody LogCall.check request with
  | .error fault => throw (.body fault)
  | .ok call => do
    modify fun s => { s with log := s.log ++ [call.record] }
    return .empty

/-- Carries out what a request asks of the storage. -/
def answerStorage {σ : Type} (service : Service σ) (request : Incoming) : Serving σ Outgoing :=
  match readBody StorageCall.check request with
  | .error fault => throw (.body fault)
  | .ok call => onStore (call.carryOut service.store)

/-- The answer of a probe that has found these failures. -/
def probeAnswer (failures : List Text) : Outgoing :=
  if failures.isEmpty then .ofJson 200 (.bool true)
  else .ofJson 503 (.object [("success", .bool false), ("message", .string "Service Unavailable"),
    ("data", .array (failures.map .string))])

/-- How requests to plugins are carried out. -/
abbrev PluginRunner (σ : Type) := Phase → Bytes → ServiceState σ → Text × ServiceState σ

/-- Runs a plugin for a phase that goes by a name. -/
def answerPlugin {σ : Type} (run : PluginRunner σ) (phaseName : Text) (body : Bytes) : Serving σ Outgoing :=
  match Phase.ofName? phaseName with
  | none => throw .phase
  | some phase => fun s =>
    let (envelope, s) := run phase body s
    .ok (.ofJsonText 200 envelope) s

/-- Carries out a request. Without a runner there are no plugins. -/
def carryOut {σ : Type} (service : Service σ) (run : Option (PluginRunner σ)) (request : Incoming) :
    Serving σ Outgoing :=
  match endpoint? service.apiRoot request.path with
  | none => throw .notFound
  | some endpoint =>
    if request.method != endpoint.method then throw .wrongMethod
    else match endpoint, run with
      | .liveness, _ => return probeAnswer []
      | .readiness, _ => do return probeAnswer (← onStore service.failures)
      | .logger, _ => answerLogger request
      | .storage, _ => service.answerStorage request
      | .plugin name, some run => answerPlugin run name request.body
      | .plugin _, none => throw .notFound

/-- An answer as it is given to a request by some method: one that asks for the head alone gets no body. -/
def Outgoing.forMethod (method : Text) (answer : Outgoing) : Outgoing :=
  if method.is "HEAD" then { answer with body := [] } else answer

/-- Answers a request. -/
def answer {σ : Type} (service : Service σ) (run : Option (PluginRunner σ)) (request : Incoming)
    (s : ServiceState σ) : Outgoing × ServiceState σ :=
  let (answer, s) := match service.carryOut run request s with
    | .ok answer s => (answer, s)
    | .error problem s => (problem.answer request.path service.tellsFailures, s)
  (answer.forMethod request.method, s)

/-- The failures of a service that needs nothing but its store. -/
def storeFailures {σ : Type} (store : KeyValueStore σ) : Storing σ (List Text) := fun s =>
  match store.ping s with
  | .ok true s => .ok [] s
  | .ok false s | .error _ s => .ok ["storage"] s

/-- The service over a store, as it is run where it is developed. -/
def withStore {σ : Type} (store : KeyValueStore σ) : Service σ := ⟨store, storeFailures store, true, "/api/v1"⟩

end Service

end PhaseScript
