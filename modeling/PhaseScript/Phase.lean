import PhaseScript.Datum.Basic
/-
The five phases of a gateway call, the handler each one calls, and the answer to a phase that a script does not
handle, which never holds the gateway up.
-/
set_option autoImplicit false

namespace PhaseScript

inductive Phase where
  | validate
  | request
  | backendCall
  | response
  | error
  deriving DecidableEq, Repr, Inhabited

namespace Phase

def all : List Phase := [.validate, .request, .backendCall, .response, .error]

def name : Phase → String
  | .validate => "validate"
  | .request => "request"
  | .backendCall => "backend_call"
  | .response => "response"
  | .error => "error"

def ofName? (t : Text) : Option Phase := all.find? fun phase => t.is phase.name

theorem ofName?_name (phase : Phase) : ofName? (Text.ofString phase.name) = some phase := by
  cases phase <;> decide

/-- The name under which a script exports the handler of a phase. -/
def handlerName (phase : Phase) : Text := "on_" ++ Text.ofString phase.name

end Phase

namespace Datum

/-- Items under their places as names. -/
def indexed : Nat → List Datum → List (Datum × Datum)
  | _, [] => []
  | place, item :: items => (.text (Text.ofNat place), item) :: indexed (place + 1) items

/-- A copy of a value as an object: entries as they are, the items of a sequence under their places, and nothing
for anything else. -/
def spread : Datum → Datum
  | .dict entries => .dict entries
  | .list items => .dict (indexed 0 items)
  | .tuple items => .dict (indexed 0 items)
  | .week year number weekday => .dict (indexed 0 [.int year, .int number, .int weekday])
  | .text t => .dict (indexed 0 (t.map fun p => .text [p]))
  | _ => .dict []

end Datum

/-- The answer to a phase without a handler: the gateway goes on, with its own request or response. -/
def Phase.defaultResult (phase : Phase) (context : List (Datum × Datum)) : Datum :=
  match phase with
  | .validate => .dict [(.text "result", .bool true)]
  | .backendCall => .dict [(.text "delegates_call", .bool true)]
  | .request => (Datum.get? context "otoroshi_request").getD .none
  | .response => (Datum.get? context "otoroshi_response").getD .none
  | .error => ((Datum.get? context "otoroshi_response").getD .none).spread

end PhaseScript
