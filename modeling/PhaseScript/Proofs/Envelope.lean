import PhaseScript.Host
import PhaseScript.Proofs.Json.Limits
/-
The one envelope of an invocation. Whatever happens on the way from input to handler, the host is
given exactly one text, and that text is in the strict grammar; a run that failed is told in an
envelope that says so with words.
-/
set_option autoImplicit false

namespace PhaseScript

/-- A text that says, with words, that a run has failed. -/
def IsErrorEnvelope (t : Text) : Prop :=
  ∃ message : Text, message ≠ [] ∧ Json.read t = .ok (Envelope.ofError message)

theorem Text.ofString_ne_nil (s : String) (some : s ≠ "") : Text.ofString s ≠ [] := by
  rw [Text.ofString, Ne, List.map_eq_nil_iff]
  exact fun none => some (String.toList_eq_nil_iff.mp none)

theorem ExceptionKind.name_ne_empty (kind : ExceptionKind) : kind.name ≠ "" := by
  cases kind <;> decide

/-- A failure without a message is told by the name of its kind. -/
theorem Failure.shown_ne_nil (failure : Failure) : failure.shown ≠ [] := by
  unfold Failure.shown
  split
  · exact Text.ofString_ne_nil _ failure.kind.name_ne_empty
  · next some => simpa using some

namespace Envelope

/-- What is told of a failure may always be written. -/
theorem writeFault?_ofError (message : Text) : Json.writeFault? true (ofError message) = none := by
  have status : Json.tooManyDigits 500 = false := by decide +kernel
  simp only [ofError, jsonHeaders, Json.writeFault?, Json.membersFault?, status, Bool.false_eq_true,
    if_false, Option.or_none]

theorem reread_ofError (message : Text) : Json.reread true (ofError message) =
    ofError (Json.joinHalves message) := by
  have name (s : String) (scalar : (Text.ofString s).isScalar = true) :
      Json.rereadText true (Text.ofString s) = Text.ofString s :=
      Json.rereadText_of_scalar true _ scalar
  have itself : Json.rereadText true message = Json.joinHalves message := rfl
  simp only [ofError, jsonHeaders, Json.reread, Json.rereadMembers, name "error" (by decide),
    name "status" (by decide), name "headers" (by decide), name "body_json" (by decide),
    name "Content-Type" (by decide), name "application/json" (by decide), itself]
  rfl

end Envelope

/-- The envelope of a failure is strict. -/
theorem Failure.envelope_strict (failure : Failure) : Json.Strict failure.envelope :=
  ⟨[], failure.envelope, [], by simp, Json.Grammar.blanks_nil,
    Json.Grammar.value_renderAt Json.Style.spaced Json.Style.spaced_lawful 0
    _ (Envelope.writeFault?_ofError _), Json.Grammar.blanks_nil⟩

/-- The envelope of a failure reads as one. -/
theorem Failure.envelope_isError (failure : Failure) : IsErrorEnvelope failure.envelope := by
  refine ⟨Json.joinHalves failure.shown, Json.joinHalves_ne_nil _ failure.shown_ne_nil, ?_⟩
  have deep : Json.nesting (Envelope.ofError failure.shown) ≤ Json.maxDepth :=
    show Json.nesting (Envelope.ofError failure.shown) ≤ 970 by
      simp only [Envelope.ofError, Envelope.jsonHeaders, Json.nesting, Json.nestingMembers]
      decide
  rw [Failure.envelope,
    Json.read_render Json.Style.spaced Json.Style.spaced_lawful _
      (Json.legible_of_written _ (Envelope.writeFault?_ofError _)) deep]
  exact congrArg Except.ok (Envelope.reread_ofError failure.shown)

namespace Datum

/-- What is written of a value is strict. -/
theorem toEnvelope_strict (d : Datum) (t : Text) (written : d.toEnvelope = .ok t) :
    Json.Strict t := by
  unfold toEnvelope at written
  split at written
  · cases written
  cases text : d.dumps with
  | error fault =>
    rw [text] at written
    cases written
  | ok found =>
    rw [text] at written
    obtain rfl := Except.ok.inj written
    unfold dumps at text
    split at text
    · cases text
    · exact Json.strict_of_write Json.Style.spaced Json.Style.spaced_lawful _ _ text

theorem marshal_strict (d : Datum) (t : Text) (written : d.marshal = .ok t) : Json.Strict t := by
  unfold marshal at written
  cases settled : d.settle with
  | error failure =>
    rw [settled] at written
    cases written
  | ok value =>
    rw [settled] at written
    dsimp only [bind, Except.bind] at written
    split at written
    · obtain rfl := Except.ok.inj written
      exact ⟨[], Json.renderAt Json.Style.spaced 0 Envelope.noResult,
        [], by rw [List.append_nil]; rfl, Json.Grammar.blanks_nil,
        Json.Grammar.value_renderAt Json.Style.spaced Json.Style.spaced_lawful 0 Envelope.noResult
        (by decide +kernel), Json.Grammar.blanks_nil⟩
    · exact toEnvelope_strict value t written

end Datum

theorem Machine.Outcome.marshal_strict (outcome : Machine.Outcome) (t : Text)
    (written : outcome.marshal = .ok t) :
    Json.Strict t := by
  cases outcome with
  | passedThrough d => exact d.toEnvelope_strict t written
  | result d => exact d.marshal_strict t written

/-- A step that succeeds is made of two that succeed. -/
theorem bind_eq_ok {ε σ α β : Type} {first : EStateM ε σ α} {next : α → EStateM ε σ β}
    {before after : σ} {b : β} (success : (first >>= next) before = .ok b after) :
    ∃ a between, first before = .ok a between ∧ next a between = .ok b after := by
  simp only [bind, EStateM.bind] at success
  split at success
  · next a between ran => exact ⟨a, between, ran, success⟩
  · cases success

/-- A run that succeeds ends with what is written of an outcome. -/
theorem Invocation.run_marshals (i : Invocation) (engine : Engine) (before after : Machine.World)
    (t : Text) (success : i.run engine before = .ok (.ok t) after) : ∃ outcome : Machine.Outcome,
    outcome.marshal = .ok t := by
  obtain ⟨table, w, _, success⟩ := bind_eq_ok success
  cases table with
  | error failure => cases success
  | ok table =>
    obtain ⟨outcome, w', _, success⟩ := bind_eq_ok success
    cases outcome with
    | error failure => cases success
    | ok outcome =>
      refine ⟨outcome, ?_⟩
      simp only [pure, EStateM.pure, EStateM.Result.ok.injEq] at success
      exact success.1

namespace Engine

/-- What an invocation returns is strict. -/
theorem answer?_strict (engine : Engine) (phase : Option Phase) (message : Message)
    (exchange : Http.Exchange) (t : Text)
    (success : (engine.answer? phase message exchange).outcome = .ok t) : Json.Strict t := by
  unfold answer? at success
  cases decoded : Invocation.ofMessage phase message with
  | error fault =>
    rw [decoded] at success
    cases success
  | ok invocation =>
    rw [decoded] at success
    dsimp only [Machine.Run.reply] at success
    cases ran : invocation.run engine (Machine.World.start exchange) with
    | error trouble w =>
      rw [ran] at success
      cases trouble <;> cases success
    | ok outcome w =>
      rw [ran] at success
      dsimp only at success
      rw [success] at ran
      obtain ⟨result, written⟩ := invocation.run_marshals engine _ _ t ran
      exact result.marshal_strict t written

end Engine

/-- What a text that was written says, given the input of the host: a failure if the input or the
phase or the run has failed, and else what the run has returned. -/
def Engine.Tells (engine : Engine) (phaseName : Text) (host : Host) (t : Text) : Prop :=
  match host.input with
  | .error _ => IsErrorEnvelope t
  | .ok message =>
    match Phase.ofName? phaseName with
    | none => IsErrorEnvelope t
    | some phase =>
      match (engine.answer? (some phase) message host.exchange).outcome with
      | .error _ => IsErrorEnvelope t
      | .ok returned => t = returned

end PhaseScript
