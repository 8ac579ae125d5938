import PhaseScript.Machine.Attributes
import PhaseScript.Machine.JsonFunctions
import PhaseScript.Invocation
import PhaseScript.Http.Fetch
import PhaseScript.Rpc.Channel
/-
The functions that a script is given beside the core ones: promises, fetching, settings, the console and the storage.
Values that leave the script are read when they leave; what comes back is new.
-/
set_option autoImplicit false

namespace PhaseScript.Machine

namespace Run

/-- The exception cell of what was raised outside the script. -/
def exceptionOf (raised : Raised) : Run Value := do
  let args ← ofData raised.args
  let attributes ← raised.attributes.mapM fun (name, d) => return (name, ← ofDatum d)
  alloc (.exception raised.kind args attributes)

/-- Runs a step that sends requests. -/
def sending {α : Type} (step : Http.Sending α) : Run α := do
  let outcome : Except Raised α ← fun w =>
    match step w.exchange with
    | .ok a exchange => .ok (.ok a) { w with exchange }
    | .error raised exchange => .ok (.error raised) { w with exchange }
  match outcome with
  | .ok a => return a
  | .error raised => raiseValue (← exceptionOf raised)

/-- The response as a value with headers of its own. -/
def newResponse (source : Http.Response) : Run Value := do
  return .response source (← newDict (source.headers.map fun (name, value) => (.text name, .text value)))

/-- The options of a fetch; options and headers may be views. -/
def optionsDatum (v : Value) : Run Datum := do
  let v ← unveiled v
  match ← entries? v with
  | none => snapshot v
  | some entries => do
    let data ← entries.toList.mapM fun (key, value) => do
      let value ← match key with
        | .text name => if name.is "headers" then unveiled value else pure value
        | _ => pure value
      return (← snapshot key, ← snapshot value)
    return .dict data

/-- The setting under a key. -/
def setting? (key : Value) : Run (Option Text) := do
  checkHashable key
  match key with
  | .text name => fun w => .ok (Environment.get? w.environment name) w
  | _ => return none

/-- The channel to the service. Only a script that has one is given the functions that use it. -/
def theChannel : Run Rpc.Channel := fun w => .ok (w.channel.getD default) w

/-- A step of the channel. -/
def calling {α : Type} (step : Rpc.Channel → Http.Sending α) : Run α := do
  let channel ← theChannel
  sending (step channel)

/-- Calls the storage. -/
def callStorage (call : StorageCall) (args : List Value) : Run Value := do
  let given (place : Nat) : Run Datum := snapshot (args.getD place .none)
  match call with
  | .get => do
    let key ← given 0
    ofDatum (← calling fun channel => channel.getItem key)
  | .set => do
    let key ← given 0
    let value ← given 1
    let options ← given 2
    ofDatum (← calling fun channel => channel.setItem key value options)
  | .remove => do
    let key ← given 0
    ofDatum (← calling fun channel => channel.removeItem key)
  | .find => do
    let pattern ← given 0
    ofDatum (.list (← calling fun channel => channel.findItems pattern))
  | .items => do ofDatum (.list (← calling Rpc.Channel.allItems))
  | .keys => do ofDatum (.list (← calling Rpc.Channel.allKeys))
  | .clear => do
    calling Rpc.Channel.clear
    return .none

end Run

/-- A parameter that must be given. -/
def required (name : String) : FormalParameter Value := ⟨Text.ofString name, .positional, none⟩

/-- A parameter that may be left out. -/
def optional (name : String) (default : Value) : FormalParameter Value := ⟨Text.ofString name, .positional, some default⟩

/-- A parameter that takes all other arguments by position. -/
def variadic (name : String) : FormalParameter Value := ⟨Text.ofString name, .variadic, none⟩

def storageSignature : StorageCall → Signature Value
  | .get => ⟨"make_storage_module.<locals>.get_item", [required "key"]⟩
  | .set => ⟨"make_storage_module.<locals>.set_item", [required "key", required "value", optional "opts" .none]⟩
  | .remove => ⟨"make_storage_module.<locals>.remove_item", [required "key"]⟩
  | .find => ⟨"make_storage_module.<locals>.find_items", [required "pattern"]⟩
  | .items => ⟨"make_storage_module.<locals>.all_items", []⟩
  | .keys => ⟨"make_storage_module.<locals>.all_keys", []⟩
  | .clear => ⟨"make_storage_module.<locals>.clear", []⟩

/-- The parameters of the functions that show them. -/
def Builtin.signature? : Builtin → Option (Signature Value)
  | .jsonLoads => some Run.loadsSignature
  | .jsonDumps => some Run.dumpsSignature
  | .resolve => some ⟨"resolve", [optional "value" .none]⟩
  | .reject => some ⟨"reject", [required "error"]⟩
  | .allOf => some ⟨"all_of", [required "items"]⟩
  | .fetch => some ⟨"make_fetch.<locals>.fetch", [required "url", optional "opts" .none]⟩
  | .envGet => some ⟨"make_env_module.<locals>.get", [required "key", optional "default" .none]⟩
  | .envInt => some ⟨"make_env_module.<locals>.get_int", [required "key", optional "default" (.int 0)]⟩
  | .envBool => some ⟨"make_env_module.<locals>.get_bool", [required "key", optional "default" (.bool false)]⟩
  | .console none => some ⟨"make_console_module.<locals>.raw", [required "level", variadic "messages"]⟩
  | .console (some name) => some ⟨"make_console_module.<locals>." ++ name, [variadic "messages"]⟩
  | .storage call => some (storageSignature call)
  | _ => none

namespace Run

/-- The values that a collecting parameter has taken. -/
def boundRow (bound : List (Bound Value)) (place : Nat) : List Value :=
  match bound[place]? with
  | some (.row values) => values
  | _ => []

/-- Calls a function with a signature, its arguments bound. -/
def callHost (m : Interp) (f : Builtin) (bound : List (Bound Value)) : Run Value := do
  let v := boundOne bound 0
  match f with
  | .resolve => resolve v
  | .reject => reject v
  | .allOf => allOf m v
  | .fetch => do
    let url ← snapshot v
    let options ← optionsDatum (boundOne bound 1)
    match ← sending (Http.fetch url options) with
    | .ok source => newPromise false (← newResponse source)
    | .error raised => newPromise true (← exceptionOf raised)
  | .envGet => do
    match ← setting? v with
    | some t => return .text t
    | none => return boundOne bound 1
  | .envInt => do
    match (← setting? v).bind Environment.int? with
    | some n => return .int n
    | none => return boundOne bound 1
  | .envBool => do
    match ← setting? v with
    | some t => return .bool (Environment.isYes t)
    | none => return boundOne bound 1
  | .console name => do
    let level ← match name with
      | some name => pure (Datum.text (if name.is "log" then ("info" : Text) else name))
      | none => snapshot v
    let messages ← (boundRow bound (if name.isNone then 1 else 0)).mapM snapshot
    calling fun channel => channel.log level messages
    return .none
  | .storage call => callStorage call ((List.range bound.length).map (boundOne bound))
  | _ => return .none

/-- A callback that may be left out. -/
def callback? (m : Interp) (f : Value) : Option (Value → Run Value) :=
  match f with
  | .none => none
  | f => some fun v => m.apply f [v]

/-- The parameters of the methods of promises and responses. -/
def plainMethodSignature (object : Value) (name : Text) : Signature Value :=
  match object with
  | .promise _ rejected _ =>
    let owner : Text := (if rejected then "RejectedPromise." else "ResolvedPromise.") ++ name
    if name.is "then" then ⟨owner, [required "self", optional "on_fulfilled" .none, optional "on_rejected" .none]⟩
    else ⟨owner, [required "self", required "on_rejected"]⟩
  | _ =>
    let method : Text := if name.is "formData" then "form_data" else if name.is "arrayBuffer" then "array_buffer"
      else name
    ⟨"FetchResponse." ++ method, [required "self"]⟩

/-- Calls a method of a promise: `then`, or `catch`, which always has a callback. -/
def callPromiseMethod (m : Interp) (promise : Value) (name : Text) (bound : List (Bound Value)) : Run Value :=
  if name.is "then" then chain (callback? m (boundOne bound 1)) (callback? m (boundOne bound 2)) promise
  else chain none (some fun v => m.apply (boundOne bound 1) [v]) promise

/-- Calls a method of a response. Ways to read the body that are not offered are rejections. -/
def callResponseMethod (source : Http.Response) (name : Text) : Run Value := do
  if name.is "clone" then newResponse source
  else if name.is "text" then newPromise false (.text source.text)
  else if name.is "json" then
    match source.json with
    | .ok value => do newPromise false (← ofJson value)
    | .error refusal => do
      let exception ← jsonException source.text refusal
      if refusal.isOfValue then newPromise true exception else raiseValue exception
  else
    let offered : Text := if name.is "form_data" then "formData" else if name.is "array_buffer" then "arrayBuffer"
      else name
    newPromise true (← exceptionOf (Http.unsupported offered))

/-- Calls a method of a promise or a response. -/
def callPlainMethod (m : Interp) (object : Value) (name : Text) (args : List Value) (named : List (Text × Value)) :
    Run Value := do
  let bound ← bindPlain (plainMethodSignature object name) (object :: args) named
  match object with
  | .response source _ => callResponseMethod source name
  | _ => callPromiseMethod m object name bound

end Run

end PhaseScript.Machine
