import PhaseScript.Datum.JsonSafe
import PhaseScript.Failure
/-
Envelopes: the one JSON text with which an invocation is answered. A promise is answered by what it settled to;
a handler that answered nothing, and a run that failed, have envelopes of their own.
-/
set_option autoImplicit false

namespace PhaseScript

namespace Envelope

def jsonHeaders : Json := .object [("Content-Type", .string "application/json")]

/-- The envelope of a failed run. -/
def ofError (message : Text) : Json :=
  .object [("error", .bool true), ("status", .int 500), ("headers", jsonHeaders),
    ("body_json", .object [("error", .string message)])]

/-- The envelope of a handler that answered nothing. -/
def noResult : Json :=
  .object [("error", .bool true), ("status", .int 500), ("headers", jsonHeaders),
    ("body_str", .string "no result")]

end Envelope

namespace Datum

/-- Whether a value can be called. -/
def isCallable : Datum → Bool
  | .stub .. => true
  | .builtin _ => true
  | .thing name _ => name.is "function" || name.is "type" || name.is "builtin_function_or_method"
  | _ => false

def attribute? (attributes : List (Text × Datum)) (name : Text) : Option Datum :=
  (attributes.find? (·.1 == name)).map (·.2)

/-- Whether a value has a method `then`, so that it counts as a promise. -/
def isThenable : Datum → Bool
  | .promise _ _ => true
  | .object true _ => true
  | .object false attributes => match attribute? attributes "then" with
    | some d => isCallable d
    | Option.none => false
  | _ => false

/-- The failure of a handler, in the words of the error it raised or rejected with. -/
def handlerFailure (error : Datum) : Failure := error.failureAs .handlerError

/-- What a promise-like object holds: its error, if that is not none, and its value. -/
def settled (error value : Datum) : Except Failure Datum :=
  match error with
  | .none => .ok value
  | error => .error (handlerFailure error)

/-- What a handler's result stands for: a promise for what it settled to, which must not be asynchronous. -/
def settle (d : Datum) : Except Failure Datum := do
  let d ← match d with
    | .promise false value => .ok value
    | .promise true error => settled error .none
    | .object thenable attributes =>
      if isThenable (.object thenable attributes) then
        settled ((attribute? attributes "error").getD .none) ((attribute? attributes "value").getD .none)
      else .ok d
    | d => .ok d
  match d with
  | .coroutine | .awaitable => .error ⟨.handlerError, "asynchronous results are not supported"⟩
  | d => .ok d

/-- Whether a result is no answer: none, false, a zero, NaN or the empty text. -/
def isNoAnswer : Datum → Bool
  | .none => true
  | .bool b => !b
  | .float x => x.isNaN || x.isZero
  | .int n => n == 0
  | .text t => t.isEmpty
  | _ => false

/-- The failure to write a value that is too deep. -/
def tooDeepToWrite : Failure := ⟨.recursionError, "maximum recursion depth exceeded in __instancecheck__"⟩

/-- The JSON text of a value, or the failure to write it. -/
def toEnvelope (d : Datum) : Except Failure Text :=
  if d.isTooDeep then .error tooDeepToWrite
  else match d.dumps with
    | .ok t => .ok t
    | .error fault => .error ⟨.valueError, fault.message⟩

/-- The envelope of a handler's result. -/
def marshal (d : Datum) : Except Failure Text := do
  let value ← settle d
  if value.isNoAnswer then .ok (Json.render .spaced Envelope.noResult) else toEnvelope value

end Datum

/-- The envelope of a failed run. -/
def Failure.envelope (failure : Failure) : Text := Json.render .spaced (Envelope.ofError failure.shown)

end PhaseScript
