import PhaseScript.Proofs.Machine.HandlerCall
import PhaseScript.Proofs.Machine.Rejection
/-
The ways for a handler to fail. A handler may raise an error, or return a promise that is rejected
with it, whether it rejects the promise itself, a callback raises, or one of several promises is
rejected. All these are told in the same words. The one exception is a rejection with none, which
is taken for no answer.
-/
set_option autoImplicit false

namespace PhaseScript

open Machine (World Run Trouble Value Rejection FirstRejected Link)
open Machine.Run (interp)

namespace Machine.Run

/-- The value that a promise holds which is resolved with a value. With anything else that counts
as a promise, it is that thing instead, and holds none that is known. -/
def heldBy? (v : Value) : Run (Option Value) := do
  match v with
  | .promise _ false held => return some held
  | v => if ← isThenable v then return none else return some v

/-- To resolve with a value that is held makes a resolved promise. -/
theorem resolve_heldBy {v held : Value} {before between : World}
    (holds : heldBy? v before = .ok (some held) between) :
    ∃ number after, resolve v before = .ok (.promise number false held) after := by
  have plain {v : Value} (holds : (do
        if ← isThenable v then return none else return some v : Run (Option Value)) before =
          .ok (some held) between) :
      ∃ number after, resolve v before = .ok (.promise number false held) after := by
    simp only [bind, EStateM.bind] at holds
    simp only [resolve, bind, EStateM.bind]
    cases asked : isThenable v before with
    | error trouble w =>
      rw [asked] at holds
      cases holds
    | ok isOne w =>
      rw [asked] at holds
      cases isOne <;> cases holds
      exact ⟨_, _, rfl⟩
  cases v
  case promise number isRejected payload =>
    cases isRejected with
    | true => cases holds
    | false =>
      cases holds
      exact ⟨_, _, rfl⟩
  all_goals exact plain holds

end Machine.Run

namespace HandlerCall

/-- The ways for a handler to fail with an error: it raises the error, it returns a promise that is
rejected with it, it returns what a callback makes of a resolved promise by raising it, or it
returns several promises as one, of which the first that is rejected is rejected with it. -/
inductive FailsWith {engine : Engine} {phase : Phase} {message : Message}
    {exchange : Http.Exchange} (call : HandlerCall engine phase message exchange)
    (error : Value) (after : World) : Prop
  | raising (raises : call.result = .error (.raised error) after)
  | rejecting {depth : Nat} {promise : Value} {w w' : World}
      (rejects : (interp depth).call (.builtin .reject) [error] [] w = .ok promise w')
      (returns : call.result = .ok promise after)
  | chaining {depth depth' mark : Nat} {v held resolved callback promise : Value}
      {w w₁ w₂ w₃ w₄ w₅ : World}
      (holds : Run.heldBy? v w = .ok (some held) w₁)
      (resolves : (interp depth').call (.builtin .resolve) [v] [] w = .ok resolved w₂)
      (isCallback : callback ≠ .none)
      (raises : (interp depth).call callback [held] [] w₃ = .error (.raised error) w₄)
      (chains : (interp (depth + 1)).call (.method resolved "then" mark) [callback] [] w₃ =
        .ok promise w₅)
      (returns : call.result = .ok promise after)
  | gathering {depth number : Nat} {items iterator promise : Value} {w w₁ w₂ : World}
      (iterates : Run.iterator items w = .ok iterator w₁)
      (first : FirstRejected (interp depth) iterator w₁ (.promise number true error))
      (gathers : (interp (depth + 1)).call (.builtin .allOf) [items] [] w = .ok promise w₂)
      (returns : call.result = .ok promise after)

section

variable {engine : Engine} {phase : Phase} {message : Message} {exchange : Http.Exchange}
  {call : HandlerCall engine phase message exchange} {error : Value} {after : World}

/-- A handler that fails raises the error or returns a promise that is rejected with it. -/
theorem FailsWith.raised_or_rejected (fails : call.FailsWith error after) :
    call.result = .error (.raised error) after ∨
      ∃ number, call.result = .ok (.promise number true error) after := by
  cases fails with
  | raising raises => exact .inl raises
  | rejecting rejects returns =>
    obtain ⟨number, rfl⟩ := (Rejection.rejected rejects).eq_promise
    exact .inr ⟨number, returns⟩
  | chaining holds resolves isCallback raises chains returns =>
    -- The promise that is chained to is a resolved one, so the callback is called.
    obtain ⟨made, between, ran⟩ := Run.resolve_heldBy holds
    obtain ⟨below, noted, -, resolved⟩ := Machine.interp_call_eq_ok resolves
    rw [Run.callValue_resolve, ran] at resolved
    cases resolved
    have taken : (Link.onFulfilled _).callback? false = some _ :=
      Link.callback?_onFulfilled isCallback
    obtain ⟨number, rfl⟩ := (Rejection.raised taken raises chains).eq_promise
    exact .inr ⟨number, returns⟩
  | gathering iterates first gathers returns =>
    obtain ⟨below, noted, same, gathered⟩ := Machine.interp_call_eq_ok gathers
    obtain rfl := Nat.succ.inj same
    rw [Run.callValue_allOf] at gathered
    rw [Run.allOf_firstRejected iterates first gathered] at returns
    exact .inr ⟨_, returns⟩

theorem FailsWith.outcome (fails : call.FailsWith error after)
    (some_ : pictured error after ≠ .none) :
    (engine.answer? (some phase) message exchange).outcome =
      .error ((pictured error after).failureAs .handlerError) := by
  obtain raised | ⟨number, returned⟩ := fails.raised_or_rejected
  · exact call.outcome_of_raised raised
  · exact call.outcome_of_rejected returned some_

end

/-- Two handlers that fail with the same exception, each in its own way, in any phases and with any
contexts, fail with the same kind of error and the same message, and are told in the same text. -/
theorem failures_agree {firstEngine secondEngine : Engine} {firstPhase secondPhase : Phase}
    {firstMessage secondMessage : Message} {firstExchange secondExchange : Http.Exchange}
    {first : HandlerCall firstEngine firstPhase firstMessage firstExchange}
    {second : HandlerCall secondEngine secondPhase secondMessage secondExchange}
    {firstError secondError : Value} {firstAfter secondAfter : World} {kind : ExceptionKind}
    {args : List Datum} {details : List (Text × Datum)}
    (firstFails : first.FailsWith firstError firstAfter)
    (secondFails : second.FailsWith secondError secondAfter)
    (firstIs : pictured firstError firstAfter = .exception kind args details)
    (secondIs : pictured secondError secondAfter = .exception kind args details) :
    ∃ failure : Failure,
      (firstEngine.answer? (some firstPhase) firstMessage firstExchange).outcome =
        .error failure ∧
      (secondEngine.answer? (some secondPhase) secondMessage secondExchange).outcome =
        .error failure ∧
      (firstEngine.answer (Text.ofString firstPhase.name) firstMessage firstExchange).1 =
        failure.envelope ∧
      (secondEngine.answer (Text.ofString secondPhase.name) secondMessage secondExchange).1 =
        failure.envelope := by
  have firstOutcome := firstFails.outcome (firstIs ▸ nofun)
  have secondOutcome := secondFails.outcome (secondIs ▸ nofun)
  rw [firstIs] at firstOutcome
  rw [secondIs] at secondOutcome
  refine ⟨_, firstOutcome, secondOutcome, ?_, ?_⟩
  · rw [answer_eq, firstOutcome, Engine.told]
  · rw [answer_eq, secondOutcome, Engine.told]

/-- A message that holds nothing but a script. -/
def scriptMessage (script : Text) : Message :=
  .text (Json.render .spaced (.object [("code", .string script)]))

def raisingSample : Message := scriptMessage
  "def h(c):\n    raise ValueError()\nexports.on_request = h"

def chainingSample : Message := scriptMessage
  ("e = ValueError()\ndef f(v):\n    raise e\n" ++
    "exports.on_error = lambda c: Promise.resolve(1).then(f)")

/-- Whether a value is pictured as an exception that says nothing. -/
def isSilent (error : Value) (after : World) : Bool :=
  match pictured error after with
  | .exception .valueError [] [] => true
  | _ => false

def raisesSilently (call : HandlerCall default .request raisingSample default) : Bool :=
  match call.result with
  | .error (.raised error) after => isSilent error after
  | _ => false

/-- Whether a call returns the promise that is made when its script's callback is called again, with
the promises counted from where they had been. -/
def chainsSilently (call : HandlerCall default .error chainingSample default) : Bool :=
  match call.result, Machine.getNamed? call.evaluated.globals "f" with
  | .ok (.promise number true (.ref address)) after, some (.ref callback) =>
    match (interp 1).call (.ref callback) [.int 1] [] { after with promises := number } with
    | .error (.raised (.ref again)) _ =>
      address == again && isSilent (.ref address) after &&
      match (interp 2).call (.method (.promise 0 false (.int 1)) "then" 0) [.ref callback] []
          { after with promises := number } with
      | .ok (.promise made true (.ref kept)) _ => made == number && kept == address
      | _ => false
    | _ => false
  | _, _ => false

theorem pictured_of_isSilent {error : Value} {after : World}
    (silent : isSilent error after = true) :
    pictured error after = .exception .valueError [] [] := by
  unfold isSilent at silent
  split at silent
  · assumption
  · cases silent

theorem raisingSample_fails :
    ∃ (call : HandlerCall default .request raisingSample default) (error : Value) (after : World),
      call.FailsWith error after ∧ pictured error after = .exception .valueError [] [] := by
  have found : (find? default .request raisingSample default).any raisesSilently = true := by
    decide +kernel
  obtain ⟨call, -, silent⟩ := (Option.any_eq_true _ _).mp found
  unfold raisesSilently at silent
  split at silent
  · next error after raised =>
    exact ⟨call, error, after, .raising raised, pictured_of_isSilent silent⟩
  · cases silent

theorem chainingSample_fails :
    ∃ (call : HandlerCall default .error chainingSample default) (error : Value) (after : World),
      call.FailsWith error after ∧ pictured error after = .exception .valueError [] [] := by
  have found : (find? default .error chainingSample default).any chainsSilently = true := by
    decide +kernel
  obtain ⟨call, -, silent⟩ := (Option.any_eq_true _ _).mp found
  unfold chainsSilently at silent
  split at silent
  · next number address after callback returned _ =>
    split at silent
    · next again w raises =>
      rw [Bool.and_eq_true, Bool.and_eq_true, beq_iff_eq] at silent
      obtain ⟨⟨same, isSilent⟩, chained⟩ := silent
      split at chained
      · next made kept w' chains =>
        rw [Bool.and_eq_true, beq_iff_eq, beq_iff_eq] at chained
        obtain ⟨rfl, rfl⟩ := chained
        subst same
        -- The chain is made afresh from here on; that it gives the promise which the call has
        -- returned was found above.
        have holds : Run.heldBy? (.int 1) default = .ok (some (.int 1)) default := rfl
        have resolves : (interp 1).call (.builtin .resolve) [.int 1] [] default =
          .ok (.promise 0 false (.int 1)) { (default : World) with promises := 1 } := rfl
        have isCallback : Value.ref callback ≠ .none := nofun
        exact ⟨call, _, after, .chaining holds resolves isCallback raises chains returned,
          pictured_of_isSilent isSilent⟩
      · cases chained
    · cases silent
  · cases silent

/-- An exception without words that is raised, and one that a callback raises. -/
theorem raising_agrees_with_chaining :
    ∃ (first : HandlerCall default .request raisingSample default)
      (second : HandlerCall default .error chainingSample default)
      (firstError secondError : Value) (firstAfter secondAfter : World),
      first.FailsWith firstError firstAfter ∧ second.FailsWith secondError secondAfter ∧
      pictured firstError firstAfter = .exception .valueError [] [] ∧
      pictured secondError secondAfter = .exception .valueError [] [] ∧
      ∃ failure : Failure,
        ((default : Engine).answer? (some .request) raisingSample default).outcome =
          .error failure ∧
        ((default : Engine).answer? (some .error) chainingSample default).outcome =
          .error failure ∧
        ((default : Engine).answer (Text.ofString Phase.request.name) raisingSample default).1 =
          failure.envelope ∧
        ((default : Engine).answer (Text.ofString Phase.error.name) chainingSample default).1 =
          failure.envelope := by
  obtain ⟨first, firstError, firstAfter, firstFails, firstIs⟩ := raisingSample_fails
  obtain ⟨second, secondError, secondAfter, secondFails, secondIs⟩ := chainingSample_fails
  exact ⟨first, second, firstError, secondError, firstAfter, secondAfter, firstFails, secondFails,
    firstIs, secondIs, failures_agree firstFails secondFails firstIs secondIs⟩

/-- A callback that is chained to a promise resolved with a rejection is not called: the answer is
the error of the rejection, and not the one that a call of it would raise. -/
theorem chained_to_rejection_differs :
    let chained : Message := scriptMessage
      "exports.on_validate = lambda c: Promise.resolve(Promise.reject(1)).then(lambda v: 1 / 0)"
    let raising : Message := scriptMessage "exports.on_validate = lambda c: 1 / 0"
    ((default : Engine).answer "validate" chained default).1 =
        (⟨.handlerError, "1"⟩ : Failure).envelope ∧
      ((default : Engine).answer "validate" raising default).1 =
        (⟨.handlerError, "division by zero"⟩ : Failure).envelope ∧
      (⟨.handlerError, "1"⟩ : Failure).envelope ≠
        (⟨.handlerError, "division by zero"⟩ : Failure).envelope :=
  ⟨by decide +kernel, by decide +kernel, by decide +kernel⟩

end HandlerCall

namespace Datum

/-- A failure is of the kind that is asked for if its words can be made. -/
theorem failureAs_handlerError_iff (d : Datum) :
    (∃ said, d.failureAs .handlerError = ⟨.handlerError, said⟩) ↔ d.unshown? = Option.none := by
  unfold failureAs unshown?
  split
  · refine ⟨?_, nofun⟩
    rintro ⟨said, same⟩
    cases congrArg Failure.kind same
  · split
    · refine ⟨?_, nofun⟩
      rintro ⟨said, same⟩
      cases congrArg Failure.kind same
    · exact ⟨fun _ => rfl, fun _ => ⟨_, rfl⟩⟩

end Datum

/-- Whether a text reads as an object that says in words what has failed. -/
def saysWhatFailed (t : Text) : Bool :=
  match Json.read t with
  | .ok (.object members) => (Json.get? members "body_json").isSome
  | _ => false

theorem IsErrorEnvelope.saysWhatFailed {t : Text} (isError : IsErrorEnvelope t) :
    saysWhatFailed t = true := by
  obtain ⟨message, -, reads⟩ := isError
  rw [PhaseScript.saysWhatFailed, reads]
  rfl

theorem noResult_not_isError : ¬ IsErrorEnvelope (Json.render .spaced Envelope.noResult) := by
  intro isError
  have silent : saysWhatFailed (Json.render .spaced Envelope.noResult) = false := by
    decide +kernel
  cases silent.symm.trans isError.saysWhatFailed

namespace HandlerCall

variable {engine : Engine} {phase : Phase} {message : Message} {exchange : Http.Exchange}

/-- How a rejection is told that a handler returns. With anything but none it is a failure in the
words of the rejection, and a failure of the handler if these words can be made; with none it is
no answer. -/
theorem rejection_isError_iff {call : HandlerCall engine phase message exchange}
    {error promise : Value} {after : World} (rejection : Rejection error promise)
    (returned : call.result = .ok promise after) :
    let outcome := (engine.answer? (some phase) message exchange).outcome
    let t := (engine.answer (Text.ofString phase.name) message exchange).1
    (IsErrorEnvelope t ↔ pictured error after ≠ .none) ∧
      ((∃ said, outcome = .error ⟨.handlerError, said⟩) ↔
        pictured error after ≠ .none ∧ (pictured error after).unshown? = none) ∧
      (pictured error after = .none → t = Json.render .spaced Envelope.noResult) := by
  intro outcome t
  obtain ⟨number, rfl⟩ := rejection.eq_promise
  have told : t = Engine.told outcome := answer_eq engine phase message exchange
  by_cases isNone : pictured error after = .none
  · have noAnswer : outcome = .ok (Json.render .spaced Envelope.noResult) := by
      refine (call.outcome_of_promise returned).trans ?_
      rw [isNone]
      rfl
    rw [noAnswer, Engine.told] at told
    refine ⟨?_, ?_, fun _ => told⟩
    · exact iff_of_false (told ▸ noResult_not_isError) (not_not_intro isNone)
    · rw [noAnswer]
      refine iff_of_false ?_ (fun holds => holds.1 isNone)
      rintro ⟨said, same⟩
      cases same
  · have failed : outcome = .error ((pictured error after).failureAs .handlerError) :=
      call.outcome_of_rejected returned isNone
    rw [failed, Engine.told] at told
    refine ⟨?_, ?_, fun none => absurd none isNone⟩
    · exact iff_of_true (told ▸ Failure.envelope_isError _) isNone
    · rw [failed, ← Datum.failureAs_handlerError_iff]
      simp [isNone]

/-- A handler that returns a rejection with none. -/
def rejectingNone : Message := scriptMessage "exports.on_validate = lambda c: Promise.reject(None)"

def returnsRejectedNone (call : HandlerCall default .validate rejectingNone default) : Bool :=
  match call.result with
  | .ok (.promise _ true .none) _ => true
  | _ => false

/-- A rejection with none is taken for no answer. -/
theorem rejectingNone_is_no_answer :
    ∃ (call : HandlerCall default .validate rejectingNone default) (promise : Value)
      (after : World), Rejection .none promise ∧ call.result = .ok promise after ∧
      let t :=
        ((default : Engine).answer (Text.ofString Phase.validate.name) rejectingNone default).1
      t = Json.render .spaced Envelope.noResult ∧ ¬ IsErrorEnvelope t := by
  have found :
      (find? default .validate rejectingNone default).any returnsRejectedNone = true := by
    decide +kernel
  obtain ⟨call, -, isNone⟩ := (Option.any_eq_true _ _).mp found
  unfold returnsRejectedNone at isNone
  split at isNone
  · next number after returned =>
    have called : (interp 1).call (.builtin .reject) [.none] []
        { (default : World) with promises := number } = .ok (.promise number true .none)
          { (default : World) with promises := number + 1 } := rfl
    have rejection : Rejection .none (.promise number true .none) := .rejected called
    have pictured : pictured .none after = .none := rfl
    obtain ⟨isError, -, noAnswer⟩ := rejection_isError_iff rejection returned
    exact ⟨call, _, after, rejection, returned, noAnswer pictured,
      fun error => isError.mp error pictured⟩
  · cases isNone

end HandlerCall

end PhaseScript
