import PhaseScript.Proofs.Envelope
/-
From the call of a handler to the envelope. A message whose script has a handler for the phase
comes to one call of it, and what the message is answered with depends on nothing but how that
call has ended: with an error, or with a value.
-/
set_option autoImplicit false

namespace PhaseScript

open Machine (World Run Trouble Value Outcome)

namespace Machine.Run

/-- The handler for a phase with the context as a value, or what is answered without a call. -/
def callee (table : Value) (phase : Phase) (context : List (Datum × Datum)) :
    Run (Except (Except Failure Outcome) (Value × Value)) := do
  let handler ← handler? table phase.handlerName
  match handler with
  | .none => return .error (.ok (.passedThrough (phase.defaultResult context)))
  | _ =>
    if !(← isCallable handler) then
      return .error (.error ⟨.handlerError, phase.handlerName ++ " is not callable"⟩)
    noteResult table
    return .ok (handler, ← newDict (← ofEntries context))

/-- What a call of a handler comes to. -/
def ended (call : Run Value) : Run (Except Failure Outcome) := do
  match ← catching call with
  | .error error => return .error (← failureOf .handlerError error)
  | .ok v => return .ok (.result (← resultDatum v))

theorem dispatch_eq (m : Interp) (table : Value) (phase : Phase)
    (context : List (Datum × Datum)) :
    dispatch m table phase context = (do
      match ← callee table phase context with
      | .error answered => return answered
      | .ok (handler, argument) =>
        let args := if ← takesContext handler then [argument] else []
        ended (m.call handler args [])) := by
  unfold dispatch callee
  simp only [bind_assoc]
  refine bind_congr fun handler => ?_
  -- Only none is no handler; any other value is asked whether it can be called.
  cases handler
  case none => simp
  all_goals
    simp only [bind_assoc]
    refine bind_congr fun callable => ?_
    cases callable with
    | false => simp
    | true =>
      simp only [Bool.not_true, Bool.false_eq_true, if_false, bind_assoc, pure_bind]
      rfl

end Machine.Run

/-- A promise that is rejected with anything but none is a failure in the words of that. -/
theorem Datum.marshal_rejected {error : Datum} (some_ : error ≠ .none) :
    (Datum.promise true error).marshal = .error (error.failureAs .handlerError) := by
  cases error
  case none => exact absurd rfl some_
  all_goals rfl

/-- The call of the handler that a message leads to: the message is read, its script leaves a table
behind, and the table has a handler for the phase, which is given the context if it takes it. -/
structure HandlerCall (engine : Engine) (phase : Phase) (message : Message)
    (exchange : Http.Exchange) where
  invocation : Invocation
  table : Value
  evaluated : World
  handler : Value
  argument : Value
  made : World
  takes : Bool
  before : World
  decodes : Invocation.ofMessage (some phase) message = .ok invocation
  evaluates : Run.evaluate (invocation.surroundings engine) invocation.source
    (World.start exchange) = .ok (.ok table) evaluated
  finds : Run.callee table invocation.phase invocation.contextData evaluated =
    .ok (.ok (handler, argument)) made
  asks : Run.takesContext handler made = .ok takes before

namespace HandlerCall

/-- The call that a message leads to, if it leads to one. -/
def find? (engine : Engine) (phase : Phase) (message : Message) (exchange : Http.Exchange) :
    Option (HandlerCall engine phase message exchange) :=
  match decodes : Invocation.ofMessage (some phase) message with
  | .error _ => none
  | .ok invocation =>
    match evaluates : Run.evaluate (invocation.surroundings engine) invocation.source
        (World.start exchange) with
    | .ok (.ok table) evaluated =>
      match finds : Run.callee table invocation.phase invocation.contextData evaluated with
      | .ok (.ok (handler, argument)) made =>
        match asks : Run.takesContext handler made with
        | .ok takes before =>
          some ⟨invocation, table, evaluated, handler, argument, made, takes, before, decodes,
            evaluates, finds, asks⟩
        | .error _ _ => none
      | _ => none
    | _ => none

variable {engine : Engine} {phase : Phase} {message : Message} {exchange : Http.Exchange}

def args (call : HandlerCall engine phase message exchange) : List Value :=
  if call.takes then [call.argument] else []

/-- How the call ends. -/
def result (call : HandlerCall engine phase message exchange) :
    EStateM.Result Trouble World Value :=
  Run.machine.call call.handler call.args [] call.before

/-- The datum of a value that the call may have ended with. -/
def pictured (v : Value) (after : World) : Datum := v.toDatum after.heap Run.showDepth []

/-- Once the call is reached, the run is what comes of the call. -/
theorem run_eq (call : HandlerCall engine phase message exchange) :
    call.invocation.run engine (World.start exchange) =
      (do
        match ← Run.ended (Run.machine.call call.handler call.args []) with
        | .error failure => return .error failure
        | .ok outcome => return outcome.marshal : Run (Except Failure Text)) call.before := by
  simp only [Invocation.run, bind, EStateM.bind, call.evaluates, Run.dispatch_eq, call.finds,
    call.asks]
  rfl

/-- A call that raises is told as a failure in the words of the error. -/
theorem outcome_of_raised (call : HandlerCall engine phase message exchange) {error : Value}
    {after : World} (raised : call.result = .error (.raised error) after) :
    (engine.answer? (some phase) message exchange).outcome =
      .error ((pictured error after).failureAs .handlerError) := by
  have ran : call.invocation.run engine (World.start exchange) =
      .ok (.error ((pictured error after).failureAs .handlerError)) after := by
    rw [result] at raised
    rw [run_eq]
    simp only [Run.ended, Run.catching, Run.failureOf, Run.snapshot, bind, EStateM.bind, pure,
      EStateM.pure, raised, pictured]
  rw [Engine.answer?, call.decodes]
  dsimp only [Run.reply]
  rw [ran]

/-- A call that returns is answered by what its value shows itself as. -/
theorem outcome_of_returned (call : HandlerCall engine phase message exchange) {v : Value}
    {d : Datum} {after shown : World} (returned : call.result = .ok v after)
    (shows_ : Run.resultDatum v after = .ok d shown) :
    (engine.answer? (some phase) message exchange).outcome = d.marshal := by
  have ran : call.invocation.run engine (World.start exchange) = .ok d.marshal shown := by
    rw [result] at returned
    rw [run_eq]
    simp only [Run.ended, Run.catching, bind, EStateM.bind, pure, EStateM.pure, returned, shows_,
      Outcome.marshal]
  rw [Engine.answer?, call.decodes]
  dsimp only [Run.reply]
  rw [ran]

/-- A call that returns a promise is answered by what the promise holds. -/
theorem outcome_of_promise (call : HandlerCall engine phase message exchange) {number : Nat}
    {rejected : Bool} {payload : Value} {after : World}
    (returned : call.result = .ok (.promise number rejected payload) after) :
    (engine.answer? (some phase) message exchange).outcome =
      (Datum.promise rejected (pictured payload after)).marshal :=
  call.outcome_of_returned returned rfl

theorem outcome_of_rejected (call : HandlerCall engine phase message exchange) {number : Nat}
    {error : Value} {after : World}
    (returned : call.result = .ok (.promise number true error) after)
    (some_ : pictured error after ≠ .none) :
    (engine.answer? (some phase) message exchange).outcome =
      .error ((pictured error after).failureAs .handlerError) := by
  rw [call.outcome_of_promise returned, Datum.marshal_rejected some_]

/-- The text that a message is answered with for a phase. -/
theorem answer_eq (engine : Engine) (phase : Phase) (message : Message)
    (exchange : Http.Exchange) :
    (engine.answer (Text.ofString phase.name) message exchange).1 =
      Engine.told (engine.answer? (some phase) message exchange).outcome := by
  rw [Engine.answer, Phase.ofName?_name]

end HandlerCall

/-- A message whose script leaves a table without a handler for the phase behind. -/
structure MissingHandler (engine : Engine) (phase : Phase) (message : Message)
    (exchange : Http.Exchange) where
  invocation : Invocation
  table : Value
  evaluated : World
  after : World
  decodes : Invocation.ofMessage (some phase) message = .ok invocation
  evaluates : Run.evaluate (invocation.surroundings engine) invocation.source
    (World.start exchange) = .ok (.ok table) evaluated
  misses : Run.handler? table invocation.phase.handlerName evaluated = .ok .none after

namespace MissingHandler

variable {engine : Engine} {phase : Phase} {message : Message} {exchange : Http.Exchange}

/-- Whether a message is of that kind. -/
def find? (engine : Engine) (phase : Phase) (message : Message) (exchange : Http.Exchange) :
    Option (MissingHandler engine phase message exchange) :=
  match decodes : Invocation.ofMessage (some phase) message with
  | .error _ => none
  | .ok invocation =>
    match evaluates : Run.evaluate (invocation.surroundings engine) invocation.source
        (World.start exchange) with
    | .ok (.ok table) evaluated =>
      match misses : Run.handler? table invocation.phase.handlerName evaluated with
      | .ok .none after =>
        some ⟨invocation, table, evaluated, after, decodes, evaluates, misses⟩
      | _ => none
    | _ => none

/-- The answer to a phase without a handler is written as it is. -/
theorem outcome_eq (missing : MissingHandler engine phase message exchange) :
    (engine.answer? (some phase) message exchange).outcome =
      (missing.invocation.phase.defaultResult missing.invocation.contextData).toEnvelope := by
  have ran : missing.invocation.run engine (World.start exchange) = .ok
      (missing.invocation.phase.defaultResult missing.invocation.contextData).toEnvelope
        missing.after := by
    simp only [Invocation.run, Run.dispatch, bind, EStateM.bind, pure, EStateM.pure,
      missing.evaluates, missing.misses, Outcome.marshal]
  rw [Engine.answer?, missing.decodes]
  dsimp only [Run.reply]
  rw [ran]

end MissingHandler

end PhaseScript
