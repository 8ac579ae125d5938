import PhaseScript.Service.Routes
import PhaseScript.Host
/-
Running plugins behind the service. The requests of a script go to a client, or come back to the service itself,
which then answers them from the very store that it offers.
-/
set_option autoImplicit false

namespace PhaseScript.Service

/-- A request of a script as the service gets it. -/
def incomingOf (request : Http.Request) : Except Raised Incoming := do
  let body ← match request.body with
    | .text t => (Utf8.encodeStrict t).mapError fun fault => Raised.of .unicodeEncodeError fault.message
    | .bytes b => .ok b
    | _ => .ok []
  return .ofUrl request.method request.url.plain
    (request.headers.map fun (name, value) => (name.plain, value.plain)) body

/-- Answers a request of a script. -/
def answerScript {σ : Type} (service : Service σ) (request : Http.Request) (s : ServiceState σ) :
    Http.Answer × ServiceState σ :=
  match incomingOf request with
  | .ok incoming =>
    let (answer, s) := service.answer none incoming s
    (.response answer.response, s)
  | .error raised => (.raised raised.kind raised.args, s)

/-- The state after requests of scripts. -/
def afterScripts {σ : Type} (service : Service σ) (requests : List Http.Request) (s : ServiceState σ) :
    ServiceState σ := requests.foldl (fun s request => (service.answerScript request s).2) s

/-- A client whose requests come back to the service, from a state on. -/
def loopback {σ : Type} (service : Service σ) (s : ServiceState σ) : Http.Client :=
  ⟨fun before request => (service.answerScript request (service.afterScripts before s)).1⟩

/-- Where the requests of scripts go. -/
inductive ScriptClient where
  | given (client : Http.Client)
  | service

/-- Runs a plugin: the message is the body of the request, the envelope the body of the answer. -/
def runPlugin {σ : Type} (service : Service σ) (engine : Engine) (client : ScriptClient) : PluginRunner σ :=
  fun phase body s =>
    let run (exchange : Http.Exchange) : Text × Http.Exchange :=
      let host := engine.execute (Text.ofString phase.name) (Host.ofMessage (.bytes body) exchange)
      (host.outputs.getLastD [], host.exchange)
    match client with
    | .given client =>
      let (envelope, exchange) := run ⟨client, s.sent.reverse⟩
      (envelope, { s with sent := exchange.requests })
    | .service =>
      let (envelope, exchange) := run ⟨service.loopback s, []⟩
      let s := service.afterScripts exchange.requests s
      (envelope, { s with sent := s.sent ++ exchange.requests })

end PhaseScript.Service
