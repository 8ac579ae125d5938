import PhaseScript.Machine.Handlers
import PhaseScript.Invocation
import PhaseScript.Envelope
/-
Answering a message: it is read, its script is run, the handler for the phase is called, and the result is written.
Whatever fails on the way is told in an envelope, so that every message has an answer.
-/
set_option autoImplicit false

namespace PhaseScript

open Machine (ModuleShelf World Trouble Run Surroundings)

/-- The modules that scripts are given beside the usual names. -/
structure Engine where
  extraModules : List Text
  shelf : ModuleShelf

instance : Inhabited Engine := ⟨⟨[], Machine.standardShelf⟩⟩

/-- What a run has come to, and the exchange with its client. -/
structure Reply (α : Type) where
  outcome : Except Failure α
  exchange : Http.Exchange

/-- The failure of a run that took more steps than it may. -/
def stepsExceeded : Failure := ⟨.runtimeError, "the script took too many steps"⟩

/-- Runs a computation of the machine from a fresh state. -/
def Machine.Run.reply {α : Type} (run : Run (Except Failure α)) (exchange : Http.Exchange) : Reply α :=
  match run (World.start exchange) with
  | .ok outcome w => ⟨outcome, w.exchange⟩
  | .error (.raised error) w => ⟨.error ((error.toDatum w.heap Run.showDepth []).failureAs .exception), w.exchange⟩
  | .error .exhausted w => ⟨.error stepsExceeded, w.exchange⟩

namespace Invocation

/-- What the script of an invocation is given. -/
def surroundings (i : Invocation) (engine : Engine) : Surroundings :=
  ⟨i.environment, i.externalApi, i.module, engine.extraModules, engine.shelf⟩

/-- Runs the script of an invocation and writes the result of the handler. -/
def run (i : Invocation) (engine : Engine) : Run (Except Failure Text) := do
  match ← Run.evaluate (i.surroundings engine) i.source with
  | .error failure => return .error failure
  | .ok table =>
    match ← Run.dispatch Run.machine table i.phase i.contextData with
    | .error failure => return .error failure
    | .ok outcome => return outcome.marshal

end Invocation

namespace Engine

/-- Answers a message, or tells the failure. -/
def answer? (engine : Engine) (phase : Option Phase) (message : Message) (exchange : Http.Exchange) : Reply Text :=
  match Invocation.ofMessage phase message with
  | .error fault => ⟨.error fault.failure, exchange⟩
  | .ok invocation => (invocation.run engine).reply exchange

/-- The text that an outcome is told in. -/
def told : Except Failure Text → Text
  | .ok t => t
  | .error failure => failure.envelope

/-- The failure to find a phase. -/
def noPhase (name : Text) : Failure := ⟨.valueError, Text.quoted name ++ " is not a valid Phase"⟩

/-- Answers a message for a phase that goes by a name. Every message is answered by one envelope. -/
def answer (engine : Engine) (phaseName : Text) (message : Message) (exchange : Http.Exchange) : Text × Http.Exchange :=
  match Phase.ofName? phaseName with
  | none => ((noPhase phaseName).envelope, exchange)
  | some phase =>
    let reply := engine.answer? (some phase) message exchange
    (told reply.outcome, reply.exchange)

end Engine

end PhaseScript
