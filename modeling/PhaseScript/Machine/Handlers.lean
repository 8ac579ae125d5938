import PhaseScript.Machine.Execution
import PhaseScript.Machine.Sandbox
import PhaseScript.Script.Lowering
/-
From a script to its table of handlers, and from a handler to its answer.
-/
set_option autoImplicit false

namespace PhaseScript.Machine

/-- What has come of the handler for a phase: the answer that stands in for a missing one, or its result. -/
inductive Outcome where
  | passedThrough (d : Datum)
  | result (d : Datum)
  deriving Inhabited

/-- The envelope of an outcome. What stands in for a missing handler is written as it is. -/
def Outcome.marshal : Outcome → Except Failure Text
  | .passedThrough d => d.toEnvelope
  | .result d => d.marshal

namespace Run

/-- The failure that an error comes to. -/
def failureOf (kind : ExceptionKind) (error : Value) : Run Failure := do return (← snapshot error).failureAs kind

/-- The table of handlers that a script leaves behind. -/
def exportsTable : Run (Except Failure Value) := do
  let found ← fun w => .ok (getNamed? w.globals "exports") w
  let table := found.getD .none
  if (← entries? table).isSome then return .ok table
  else return .error ⟨.evaluationError, "exports must be a mapping of handlers, got " ++ (← shortTypeName table)⟩

/-- Compiles a script, runs it and gives its table of handlers. -/
def evaluate (s : Surroundings) (source : Text) : Run (Except Failure Value) := do
  match Script.compile source with
  | .error complaint => return .error ⟨.evaluationError, "script compile failed: " ++ complaint⟩
  | .ok code =>
    prepare s
    modifyWatch fun watch => { watch with isOn := Script.canLinger code }
    match ← catching (runScript code) with
    | .error error => return .error (← failureOf .evaluationError error)
    | .ok () => exportsTable

/-- The entry of a table under a name. -/
def handler? (table : Value) (name : Text) : Run Value := do
  let entries := (← entries? table).getD #[]
  return match (findKey? entries (.text name)).bind (entries[·]?) with
    | some (_, handler) => handler
    | none => .none

/-- The datum of a handler's result. A table with a method `then` shows itself as a promise. -/
def resultDatum (v : Value) : Run Datum := do
  match v with
  | .promise _ rejected payload => return .promise rejected (← snapshot payload)
  | .ref address =>
    match ← cellAt address, ← isThenable v with
    | .dict entries true, true =>
      let attributes ← entries.toList.filterMapM fun (key, value) => do
        match key with
        | .text name => return some (name, ← snapshot value)
        | _ => return none
      return .object true attributes
    | _, _ => snapshot v
  | _ => snapshot v

/-- Calls the handler for a phase with the context, or answers in its stead. -/
def dispatch (m : Interp) (table : Value) (phase : Phase) (context : List (Datum × Datum)) :
    Run (Except Failure Outcome) := do
  let handler ← handler? table phase.handlerName
  match handler with
  | .none => return .ok (.passedThrough (phase.defaultResult context))
  | _ =>
    if !(← isCallable handler) then return .error ⟨.handlerError, phase.handlerName ++ " is not callable"⟩
    noteResult table
    let argument ← newDict (← ofEntries context)
    let args := if ← takesContext handler then [argument] else []
    match ← catching (m.call handler args []) with
    | .error error => return .error (← failureOf .handlerError error)
    | .ok v => return .ok (.result (← resultDatum v))

end Run

end PhaseScript.Machine
