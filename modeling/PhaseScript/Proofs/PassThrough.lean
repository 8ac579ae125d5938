import PhaseScript.Proofs.Forwarding
import PhaseScript.Proofs.Text.Basic
/-
Phases without a handler. What they are answered with is a value of the message, and is written as
it is; a handler that returns the same value is answered with the same text, unless the value is
taken for no answer.
-/
set_option autoImplicit false

namespace PhaseScript

open Json (Limited Whole nesting finite reread)
open Machine (World Run Value)

namespace Json

/-- Items as members, each under its place as a decimal number. -/
def numbered (items : List Json) (start : Nat) : List (Text × Json) :=
  (items.zipIdx start).map fun (item, place) => (Text.ofNat place, item)

/-- A value as an object: the items of an array and the characters of a text under their places, and
nothing of what has no members. -/
def spread : Json → Json
  | .object members => .object members
  | .array items => .object (numbered items 0)
  | .string t => .object (numbered (t.map fun p => .string [p]) 0)
  | _ => .object []

/-- What is taken for no answer: null, false, zeros, what is not a number, and the empty text. -/
inductive NoAnswer : Json → Prop
  | null : NoAnswer .null
  | false : NoAnswer (.bool false)
  | int : NoAnswer (.int 0)
  | zero {x : Binary64} : x.isZero = true → NoAnswer (.float x)
  | nan {x : Binary64} : x.isNaN = true → NoAnswer (.float x)
  | text : NoAnswer (.string [])

/-- What writing a value comes to: its strict JSON text, or the failure of one that is too deep. -/
def written (v : Json) : Except Failure Text :=
  if 485 < nesting v then .error Datum.tooDeepToWrite else .ok (render .spaced (finite v))

theorem mem_numbered {items : List Json} {start : Nat} {member : Text × Json}
    (among : member ∈ numbered items start) :
    (∃ place, member.1 = Text.ofNat place) ∧ member.2 ∈ items := by
  obtain ⟨⟨item, place⟩, inside, rfl⟩ := List.mem_map.mp among
  exact ⟨⟨place, rfl⟩, List.fst_mem_of_mem_zipIdx inside⟩

/-- No two items have the same place. -/
theorem names_numbered_nodup (items : List Json) (start : Nat) :
    ((numbered items start).map (·.1)).Nodup := by
  have names : (numbered items start).map (·.1) =
      ((items.zipIdx start).map (·.2)).map Text.ofNat := by
    simp only [numbered, List.map_map]
    rfl
  rw [names, List.zipIdx_map_snd]
  exact List.Nodup.map Text.ofNat_injective List.nodup_range'

theorem limited_numbered {items : List Json} (all : ∀ item ∈ items, Limited item) :
    Limited (.object (numbered items 0)) :=
  ⟨(limitedMembers_iff _).mpr fun member among => all member.2 (mem_numbered among).2,
    names_numbered_nodup items 0⟩

theorem whole_numbered {items : List Json} (all : ∀ item ∈ items, Whole item) :
    Whole (.object (numbered items 0)) := by
  refine (wholeMembers_iff _).mpr fun member among => ?_
  obtain ⟨⟨place, name⟩, inside⟩ := mem_numbered among
  rw [name]
  exact ⟨Text.joined_of_scalar _ (Text.isScalar_ofNat place), all member.2 inside⟩

theorem limited_spread (v : Json) (limited : Limited v) : Limited v.spread := by
  cases v with
  | object members => exact limited
  | array items => exact limited_numbered ((limitedAll_iff items).mp limited)
  | string t =>
    refine limited_numbered fun item among => ?_
    obtain ⟨p, -, rfl⟩ := List.mem_map.mp among
    exact trivial
  | _ => exact ⟨trivial, List.nodup_nil⟩

theorem whole_spread (v : Json) (whole : Whole v) : Whole v.spread := by
  cases v with
  | object members => exact whole
  | array items => exact whole_numbered ((wholeAll_iff items).mp whole)
  | string t =>
    refine whole_numbered fun item among => ?_
    obtain ⟨p, -, rfl⟩ := List.mem_map.mp among
    exact List.isChain_singleton p
  | _ => exact trivial

/-- What a value comes to when it is written can be read back. -/
theorem read_written (v : Json) (limited : Limited v) {t : Text} (made : written v = .ok t) :
    read t = .ok (reread true (finite v)) ∧ (Whole v → read t = .ok (finite v)) := by
  unfold written at made
  split at made
  · cases made
  · next shallow =>
    cases made
    have deep : nesting v ≤ maxDepth := by
      change nesting v ≤ 970
      omega
    refine ⟨?_, fun whole => ?_⟩
    · exact read_render .spaced Style.spaced_lawful (finite v)
        (legible_of_written _ (writeFault?_finite v limited)) ((nesting_finite v).trans_le deep)
    · exact read_render_finite .spaced Style.spaced_lawful v limited whole deep

/-- The envelope of a handler that answered nothing is not the text of any value that is taken for
no answer: it is an object. -/
theorem written_ne_noResult {v : Json} (nothing : NoAnswer v) :
    written v ≠ .ok (render .spaced Envelope.noResult) := by
  intro same
  have limited : Limited v := by
    cases nothing <;> trivial
  have envelope : written Envelope.noResult = .ok (render .spaced Envelope.noResult) := rfl
  have limited' : Limited Envelope.noResult := by
    refine ⟨⟨trivial, (by decide +kernel : tooManyDigits 500 = false), ?_, trivial, trivial⟩, ?_⟩
    · exact ⟨⟨trivial, trivial⟩, List.nodup_singleton _⟩
    · decide +kernel
  -- what is read of the envelope is an object, and what is read of the other text is none
  have both := (read_written v limited same).1.symm.trans (read_written _ limited' envelope).1
  cases nothing with
  | zero _ | nan _ =>
    rw [finite] at both
    split at both <;> cases both
  | _ => cases both

end Json

/-- The value that a phase without a handler is answered with, of the members of the message. -/
def Phase.passedThrough (phase : Phase) (members : List (Text × Json)) : Json :=
  let member (name : Text) : Json := (Json.get? members name).getD .null
  match phase with
  | .validate => .object [("result", .bool true)]
  | .backendCall => .object [("delegates_call", .bool true)]
  | .request => member "otoroshi_request"
  | .response => member "otoroshi_response"
  | .error => (member "otoroshi_response").spread

namespace Datum

theorem indexed_ofJsonItems (items : List Json) (start : Nat) :
    indexed start (ofJsonItems items) = ofJsonMembers (Json.numbered items start) := by
  induction items generalizing start with
  | nil => rfl
  | cons item items ih =>
    exact congrArg ((text (Text.ofNat start), ofJson item) :: ·) (ih (start + 1))

theorem spread_ofJson (v : Json) : (ofJson v).spread = ofJson v.spread := by
  cases v with
  | array items => exact congrArg dict (indexed_ofJsonItems items 0)
  | string t =>
    have characters : (t.map fun p => text [p]) = ofJsonItems (t.map fun p => .string [p]) := by
      induction t with
      | nil => rfl
      | cons p t ih => exact congrArg (text [p] :: ·) ih
    rw [ofJson, spread, characters]
    exact congrArg dict (indexed_ofJsonItems _ 0)
  | _ => rfl

theorem isNoAnswer_ofJson (v : Json) : (ofJson v).isNoAnswer = true ↔ Json.NoAnswer v := by
  constructor
  · intro nothing
    cases v with
    | null => exact .null
    | bool b =>
      obtain rfl : b = false := by simpa only [ofJson, isNoAnswer, Bool.not_eq_true'] using nothing
      exact .false
    | int n =>
      obtain rfl : n = 0 := by simpa only [ofJson, isNoAnswer, beq_iff_eq] using nothing
      exact .int
    | float x =>
      obtain nan | zero := (Bool.or_eq_true _ _).mp nothing
      · exact .nan nan
      · exact .zero zero
    | string t =>
      obtain rfl : t = [] := List.isEmpty_iff.mp nothing
      exact .text
    | array items => cases nothing
    | object members => cases nothing
  · rintro (_ | _ | _ | zero | nan | _)
    case zero => exact (Bool.or_eq_true _ _).mpr (.inr zero)
    case nan => exact (Bool.or_eq_true _ _).mpr (.inl nan)
    all_goals rfl

theorem toEnvelope_written (v : Json) (limited : Limited v) :
    (ofJson v).toEnvelope = Json.written v := by
  have deep : depthLimit < 2 * nesting v ↔ 485 < nesting v := by
    change 970 < 2 * nesting v ↔ 485 < nesting v
    omega
  rw [toEnvelope_ofJson v limited, Json.written]
  simp only [deep]

/-- A value as the result of a handler is written as it is, unless it is taken for no answer. -/
theorem marshal_ofJson (v : Json) (limited : Limited v) :
    ((ofJson v).marshal = Json.written v ↔ ¬ Json.NoAnswer v) ∧
      (Json.NoAnswer v → (ofJson v).marshal = .ok (Json.render .spaced Envelope.noResult)) := by
  have settled : (ofJson v).settle = .ok (ofJson v) := by
    cases v <;> rfl
  have made : (ofJson v).marshal = if (ofJson v).isNoAnswer then
      .ok (Json.render .spaced Envelope.noResult) else (ofJson v).toEnvelope := by
    rw [marshal, settled]
    rfl
  rw [made]
  by_cases nothing : Json.NoAnswer v
  · rw [(isNoAnswer_ofJson v).mpr nothing, if_pos rfl]
    exact ⟨iff_of_false (Json.written_ne_noResult nothing).symm (not_not_intro nothing),
      fun _ => rfl⟩
  · rw [if_neg fun taken => nothing ((isNoAnswer_ofJson v).mp taken), toEnvelope_written v limited]
    exact ⟨iff_of_true rfl nothing, fun other => absurd other nothing⟩

end Datum

namespace Invocation

/-- Neither member of the gateway is one for the program itself. -/
theorem defaultResult_contextMembers (phase : Phase) (members : List (Text × Json)) :
    phase.defaultResult (Datum.ofJsonMembers (contextMembers members)) =
      .ofJson (phase.passedThrough members) := by
  have member {phase : Phase} {name : Text} (gateway : phase.gatewayMember? = some name) :
      phase.defaultResult (Datum.ofJsonMembers (contextMembers members)) =
        .ofJson ((Json.get? members name).getD .null) := by
    rw [Phase.defaultResult_gatewayMember gateway, get?_contextMembers gateway]
  have response := member (rfl : Phase.gatewayMember? .response = _)
  cases phase with
  | validate | backendCall => rfl
  | request => exact member rfl
  | response => exact response
  | error => exact (congrArg Datum.spread response).trans (Datum.spread_ofJson _)

theorem limited_passedThrough (phase : Phase) {members : List (Text × Json)}
    (limited : Limited (.object members)) : Limited (phase.passedThrough members) := by
  have member (name : Text) : Limited ((Json.get? members name).getD .null) :=
    Json.getD_get? ((Json.limitedMembers_iff members).mp limited.1) trivial name
  cases phase with
  | validate | backendCall => exact ⟨⟨trivial, trivial⟩, List.nodup_singleton _⟩
  | request | response => exact member _
  | error => exact Json.limited_spread _ (member _)

theorem whole_passedThrough (phase : Phase) {members : List (Text × Json)}
    (whole : Whole (.object members)) : Whole (phase.passedThrough members) := by
  have member (name : Text) : Whole ((Json.get? members name).getD .null) :=
    Json.getD_get? (fun member among => ((Json.wholeMembers_iff members).mp whole member among).2)
      trivial name
  cases phase with
  | validate | backendCall =>
    exact ⟨Text.joined_of_scalar _ (Text.isScalar_ofString _), trivial, trivial⟩
  | request | response => exact member _
  | error => exact Json.whole_spread _ (member _)

/-- A message whose script gives back a zero of a request and answers validations as they are
answered without a handler, but does not handle errors. -/
def passingSample : Text :=
  "\x7b\"code\": \"exports.on_request = lambda c: c['otoroshi_request']\\n" ++
  "exports.on_validate = lambda c: \x7b'result': True\x7d\", " ++
  "\"otoroshi_request\": -0.0, \"otoroshi_response\": [\"a\", NaN]\x7d"

def passingMembers : List (Text × Json) :=
  [("code", .string ("exports.on_request = lambda c: c['otoroshi_request']\n" ++
      "exports.on_validate = lambda c: \x7b'result': True\x7d")),
    ("otoroshi_request", .float ⟨0x8000000000000000⟩),
    ("otoroshi_response", .array [.string "a", .float Binary64.nan])]

/-- Whether a call returns what shows itself in a certain way. -/
def returnsShown {phase : Phase} {message : Message} (isShown : Datum → Bool)
    (call : HandlerCall default phase message default) : Bool :=
  match call.result with
  | .ok v after => match Run.resultDatum v after with
    | .ok d _ => isShown d
    | .error _ _ => false
  | .error _ _ => false

theorem exists_of_returnsShown {phase : Phase} {message : Message} {isShown : Datum → Bool}
    {call : HandlerCall default phase message default}
    (returns : returnsShown isShown call = true) :
    ∃ v d after shown, call.result = .ok v after ∧ Run.resultDatum v after = .ok d shown ∧
      isShown d = true := by
  unfold returnsShown at returns
  split at returns
  · next v after returned =>
    split at returns
    · next d shown shows_ => exact ⟨v, d, after, shown, returned, shows_, returns⟩
    · cases returns
  · cases returns

def isMinusZero : Datum → Bool
  | .float x => decide (x = ⟨0x8000000000000000⟩)
  | _ => false

def isResult : Datum → Bool
  | .dict [(.text t, .bool true)] => t = "result"
  | _ => false

/-- A message without a script, with a request in which arrays lie too deep. -/
def deepRequest : Text :=
  "\x7b\"otoroshi_request\": " ++ List.replicate 486 (Point.ofChar '[') ++
    List.replicate 486 (Point.ofChar ']') ++ "\x7d"

/-- A message without a script, with half a surrogate pair beside the escape of the other half. -/
def halvedResponse : Text :=
  "\x7b\"otoroshi_response\": \x7b\"a\": \"" ++ [Point.ofNat 0xD83D] ++ "\\ude00\"\x7d\x7d"

end Invocation

end PhaseScript
