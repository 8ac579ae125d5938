import PhaseScript.Phase
import PhaseScript.Failure
import PhaseScript.Text.Encoding
import PhaseScript.Json.Reader
import PhaseScript.Number.Reading
/-
Invocations: what one inbound message asks for. The message is a JSON object; a few members are for the program
itself, and all others are the context that the handler is given. The settings that come with an invocation are texts
by name, which a script may read as something else.
-/
set_option autoImplicit false

namespace PhaseScript

/-- Settings by name, in order. -/
abbrev Environment := List (Text × Text)

namespace Environment

/-- The value of a setting. -/
def get? (environment : Environment) (name : Text) : Option Text :=
  (environment.find? fun entry => entry.1 == name).map (·.2)

/-- A value read as an integer, if it is one. -/
def int? (value : Text) : Option Int :=
  match Text.readInt 10 value with
  | .ok n => some n
  | .error _ => none

/-- Whether a value says yes. -/
def isYes (value : Text) : Bool :=
  let word := value.lower.strip
  ["true", "1", "yes", "on"].any fun yes => word.is yes

end Environment

/-- The external service a script may call for logging and storage. -/
structure ExternalApi where
  url : Text
  headers : List (Text × Text)
  deriving DecidableEq, Repr, Inhabited

/-- The service at an address; slashes at the end of the address are dropped. -/
def ExternalApi.ofUrl (url : Text) (headers : List (Text × Text)) : ExternalApi :=
  ⟨Text.dropEndWhile (·.is '/') url, headers⟩

/-- An invocation. -/
structure Invocation where
  phase : Phase
  source : Text
  module : Option Text
  environment : List (Text × Text)
  externalApi : Option ExternalApi
  context : List (Text × Json)
  deriving Inhabited, Repr

/-- An inbound message as it arrives. -/
inductive Message where
  | text (t : Text)
  | bytes (b : Bytes)
  deriving DecidableEq, Repr, Inhabited

namespace Invocation

/-- What is wrong with a message. -/
inductive Fault where
  | encoding (fault : DecodeFault)
  | json (whole : Text) (refusal : Json.Refusal)
  | notObject
  | phase
  | source
  | module
  | environment
  | url
  | headers
  | header (name : Text)
  deriving DecidableEq, Repr

/-- The fault in words, after the place where it was found. -/
def Fault.detail : Fault → Text
  | .encoding fault => fault.message
  | .json whole refusal => refusal.message whole
  | .notObject => "expected a JSON object"
  | .phase => "phase: Input should be 'validate', 'request', 'backend_call', 'response' or 'error'"
  | .source => "source: Input should be a valid string"
  | .module => "module: Input should be a valid string"
  | .environment => "environment: Input should be a valid dictionary"
  | .url => "external_api.url: Input should be a valid string"
  | .headers => "external_api.headers: Input should be a valid dictionary"
  | .header name => "external_api.headers." ++ name ++ ": Input should be a valid string"

def Fault.message (fault : Fault) : Text := "invalid invocation payload: " ++ fault.detail

/-- The fault as a failure; a message that is too deep to be read is no fault of the invocation. -/
def Fault.failure : Fault → Failure
  | .json whole (.tooDeep isArray) => ⟨.recursionError, (Json.Refusal.tooDeep isArray).message whole⟩
  | fault => ⟨.decodeError, fault.message⟩

/-- The members that are not part of the context. -/
def engineFields : List Text := ["code", "module", "externalApiUrl", "externalApiHeaders"]

/-- Whether a value counts as given: null, false, zeros and empty values do not. -/
def isGiven : Json → Bool
  | .null => false
  | .bool b => b
  | .int n => n != 0
  | .float x => !x.isZero
  | .string t => !t.isEmpty
  | .array items => !items.isEmpty
  | .object members => !members.isEmpty

/-- A text that may be left out. -/
def optionalText (fault : Fault) : Option Json → Except Fault (Option Text)
  | none | some .null => .ok none
  | some (.string t) => .ok (some t)
  | some _ => .error fault

/-- The settings of a script: every member that is not null, as text. -/
def environmentOf : Option Json → Except Fault (List (Text × Text))
  | none | some .null => .ok []
  | some (.object members) =>
    .ok (members.filterMap fun (name, value) => match value with
      | .null => none
      | value => some (name, (Datum.ofJson value).plain))
  | some _ => .error .environment

/-- The headers for the external service; all values are texts. -/
def headerTexts : List (Text × Json) → Except Fault (List (Text × Text))
  | [] => .ok []
  | (name, .string t) :: rest => (headerTexts rest).map ((name, t) :: ·)
  | (name, _) :: _ => .error (.header name)

def headersOf : Option Json → Except Fault (List (Text × Text))
  | none => .ok []
  | some value =>
    if !isGiven value then .ok []
    else match value with
      | .object members => headerTexts members
      | _ => .error .headers

/-- The external service, if its address is given. -/
def externalApiOf (url headers : Option Json) : Except Fault (Option ExternalApi) :=
  match url with
  | none => .ok none
  | some value =>
    if !isGiven value then .ok none
    else match value with
      | .string t => (headersOf headers).map fun headers => some (ExternalApi.ofUrl t headers)
      | _ => .error .url

/-- The invocation that the members of a message describe. -/
def ofMembers (phase : Option Phase) (members : List (Text × Json)) : Except Fault Invocation := do
  let phase ← match phase with
    | some phase => .ok phase
    | none => .error .phase
  let source ← optionalText .source (Json.get? members "code")
  let module ← optionalText .module (Json.get? members "module")
  let environment ← environmentOf (Json.get? members "env")
  let externalApi ← externalApiOf (Json.get? members "externalApiUrl") (Json.get? members "externalApiHeaders")
  return {
    phase, source := source.getD [], module, environment, externalApi
    context := members.filter fun (name, _) => !engineFields.contains name }

/-- The text of a message. -/
def textOf : Message → Except Fault Text
  | .text t => .ok t
  | .bytes b => match decodeMessage b with
    | .ok t => .ok t
    | .error fault => .error (.encoding fault)

/-- Reads a message for a phase. -/
def ofMessage (phase : Option Phase) (message : Message) : Except Fault Invocation :=
  match textOf message with
  | .error fault => .error fault
  | .ok t => match Json.read t with
    | .error refusal => .error (.json t refusal)
    | .ok (.object members) => ofMembers phase members
    | .ok _ => .error .notObject

/-- The context as the handler sees it. -/
def contextData (invocation : Invocation) : List (Datum × Datum) := Datum.ofJsonMembers invocation.context

end Invocation

end PhaseScript
