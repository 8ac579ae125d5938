import PhaseScript.Datum.JsonText
import PhaseScript.Http.Fetch
import PhaseScript.Invocation
/-
The channel to the service for logging and storage: one POST for each call, with a JSON body. The
storage of a script is a table of texts that the service keeps.
-/
set_option autoImplicit false

namespace PhaseScript.Rpc

def loggerPath : Text := "/apis/v1/logger/_rpc"
def storagePath : Text := "/apis/v1/storage/_rpc"

/-- The way to the service that calls are bound to. -/
structure Channel where
  baseUrl : Text
  module : Option Text
  headers : Http.Headers
  deriving DecidableEq, Repr, Inhabited

/-- The headers of every call; those of the caller replace the others of the very same name. -/
def callHeaders (module : Option Text) (given : Http.Headers) : Http.Headers :=
  let tag : Http.Headers := match module with
    | some name => if name.isEmpty then [] else [("X-Wasm-Module", name)]
    | none => []
  let usual : Http.Headers := [("Accept", "application/json"), ("Content-Type", "application/json")]
  given.foldl (fun headers (name, value) => Http.putHeader name value headers) (usual ++ tag)

/-- The channel of an invocation, if it is bound to a service. -/
def Channel.of? (api : Option ExternalApi) (module : Option Text) : Option Channel :=
  match api with
  | some api =>
    if api.url.isEmpty then none
    else some ⟨Text.dropEndWhile (·.is '/') api.url, module, callHeaders module api.headers⟩
  | none => none

/-- Posts members as JSON. -/
def Channel.post (channel : Channel) (path : Text) (members : List (Text × Datum)) : Http.Sending Http.Response := do
  let body ← MonadExcept.ofExcept (Http.jsonBody (Datum.ofMembers members))
  Http.request (.text "POST") (.text (channel.baseUrl ++ path)) (Http.headerEntries channel.headers) (.text body)

/-- The datum of a text that may be missing. -/
def optionalText : Option Text → Datum
  | some t => .text t
  | none => .none

/-- The failure of a call, which tells the status of the answer. -/
def failure (kind : ExceptionKind) (message : Text) (description : Datum) (status : Int) : Raised :=
  ⟨kind, [.text message], [("description", description), ("status", .int status)]⟩

/-- Logs messages at a level, which is one line of the service's log. Of the answer only the status counts. -/
def Channel.log (channel : Channel) (level : Datum) (messages : List Datum) : Http.Sending Unit := do
  let answer ← channel.post loggerPath
    [("module", optionalText channel.module), ("level", level), ("messages", .list messages)]
  if !Http.isSuccess answer.status then
    throw (failure .rpcError ("logger rpc failed with status " ++ Text.ofInt answer.status) .none answer.status)

/-- The statuses of calls that succeeded. -/
def isStorageSuccess (status : Int) : Bool := [200, 201, 204].contains status

/-- The members of an answer: none without a body; a body that is no object is its only member. -/
def answerMembers (answer : Http.Response) : Except Json.Refusal (List (Datum × Datum)) :=
  if answer.text.isEmpty then .ok []
  else match answer.json with
    | .ok (.object members) => .ok (Datum.ofJsonMembers members)
    | .ok value => .ok [(.text "value", Datum.ofJson value)]
    | .error refusal => .error refusal

/-- Asks the service for an operation. -/
def Channel.ask (channel : Channel) (operation : Text) (key value options : Datum) :
    Http.Sending (List (Datum × Datum)) := do
  let answer ← channel.post storagePath
    [("operation", .text operation), ("key", key), ("value", value), ("opts", options)]
  let members ← match answerMembers answer with
    | .ok members => pure members
    | .error refusal =>
      if !refusal.isOfValue then throw (.of refusal.kind (refusal.message answer.text))
      else if isStorageSuccess answer.status then
        throw (failure .storageError ("invalid storage response: " ++ refusal.message answer.text) .none
          answer.status)
      else pure []
  if !isStorageSuccess answer.status then
    let shown := (Datum.entry members "error").orElse
      (.text ("storage rpc failed with status " ++ Text.ofInt answer.status))
    let message ← MonadExcept.ofExcept (Http.shownText shown)
    throw (failure .storageError message (Datum.entry members "error_description") answer.status)
  return members

/-- The value under a key. -/
def Channel.getItem (channel : Channel) (key : Datum) : Http.Sending Datum := do
  return Datum.entry (← channel.ask "get" key .none .none) "value"

/-- Keeps a value under a key; what is not text is kept as its JSON text. -/
def Channel.setItem (channel : Channel) (key value options : Datum) : Http.Sending Datum := do
  let kept ← match value with
    | .text t => pure t
    | _ => match value.jsonText with
      | .ok t => pure t
      | .error refusal => throw (.of refusal.kind refusal.message)
  let members ← channel.ask "set" key (.text kept) options
  return Datum.ofMembers [("key", (Datum.get? members "key").getD key),
    ("value", (Datum.get? members "value").getD (.text kept)), ("previous", Datum.entry members "previous")]

/-- Forgets the value under a key. -/
def Channel.removeItem (channel : Channel) (key : Datum) : Http.Sending Datum := do
  return Datum.entry (← channel.ask "remove" key .none .none) "value"

/-- The items of a value that has any. -/
def itemsOf (d : Datum) : Except Raised (List Datum) :=
  match d with
  | .list items | .tuple items | .set _ items => .ok items
  | .week year number weekday => .ok [.int year, .int number, .int weekday]
  | .text t => .ok (t.map fun p => .text [p])
  | .dict entries => .ok (entries.map (·.1))
  | _ => .error (.of .typeError ("'" ++ d.typeName ++ "' object is not iterable"))

/-- The entries whose keys match a pattern. -/
def Channel.findItems (channel : Channel) (pattern : Datum) : Http.Sending (List Datum) := do
  let found := Datum.entry (← channel.ask "find" pattern .none .none) "value"
  MonadExcept.ofExcept (itemsOf (found.orElse (.list [])))

/-- One member of each entry. -/
def membersNamed (name : Text) : List Datum → Except Raised (List Datum)
  | [] => .ok []
  | .dict entries :: rest => do return Datum.entry entries name :: (← membersNamed name rest)
  | other :: _ => .error (.noAttribute other "get")

/-- The pattern that every key matches. -/
def everyKey : Datum := .text ".*"

def Channel.allItems (channel : Channel) : Http.Sending (List Datum) := do
  MonadExcept.ofExcept (membersNamed "value" (← channel.findItems everyKey))

def Channel.allKeys (channel : Channel) : Http.Sending (List Datum) := do
  MonadExcept.ofExcept (membersNamed "key" (← channel.findItems everyKey))

/-- Forgets everything. -/
def Channel.clear (channel : Channel) : Http.Sending Unit := do
  let _ ← channel.ask "clear" .none .none .none

end PhaseScript.Rpc
