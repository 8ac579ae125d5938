import PhaseScript.Proofs.Invocation
import PhaseScript.Proofs.Rpc.Calls
/-
How calls to the storage end, whatever comes back for what they post. An answer that is refused or
cannot be read is a failure of the storage with the status of the answer. What is searched in any
other answer may still have another shape than a search expects, and then the call fails in a way of
its own. So it does where the body is too deep to be read.
-/
set_option autoImplicit false

namespace PhaseScript.Rpc

open Invocation (Falsy NotGiven)
open Machine (StorageCall)

/-- The operation that a call asks for. -/
def operationName : StorageCall → Text
  | .get => "get"
  | .set => "set"
  | .remove => "remove"
  | .find | .items | .keys => "find"
  | .clear => "clear"

/-- The key that a call asks for. All items and all keys are searched by a pattern of their own. -/
def postedKey (call : StorageCall) (args : List Datum) : Datum :=
  match call with
  | .get | .set | .remove | .find => args.getD 0 .none
  | .items | .keys => everyKey
  | .clear => .none

/-- What a call gives beside the key, at a place of its arguments: only `setItem` gives more. -/
def postedExtra (call : StorageCall) (args : List Datum) (place : Nat) : Datum :=
  match call with
  | .set => args.getD place .none
  | _ => .none

/-- The members that a call posts. -/
def postedMembers (call : StorageCall) (args : List Datum) : List (Text × Datum) :=
  [("operation", .text (operationName call)), ("key", postedKey call args),
    ("value", postedExtra call args 1), ("opts", postedExtra call args 2)]

/-- The items that an answer says were found. -/
def foundItems (members : List (Datum × Datum)) : Except Raised (List Datum) :=
  itemsOf ((Datum.entry members "value").orElse (.list []))

/-- What a call makes of the members of its answer. -/
def answered (call : StorageCall) (args : List Datum) (members : List (Datum × Datum)) :
    Except Raised Datum :=
  match call with
  | .get | .remove => .ok (Datum.entry members "value")
  | .set => .ok (Datum.ofMembers [("key", (Datum.get? members "key").getD (args.getD 0 .none)),
      ("value", (Datum.get? members "value").getD (args.getD 1 .none)),
      ("previous", Datum.entry members "previous")])
  | .find => (foundItems members).map .list
  | .items => ((foundItems members).bind (membersNamed "value")).map .list
  | .keys => ((foundItems members).bind (membersNamed "key")).map .list
  | .clear => .ok .none

theorem ofExcept_bind {α β : Type} (found : Except Raised α) (next : α → Except Raised β) :
    (do MonadExcept.ofExcept (next (← MonadExcept.ofExcept found)) : Http.Sending β) =
      MonadExcept.ofExcept (found.bind next) := by
  cases found <;> rfl

theorem ofExcept_map {α β : Type} (found : Except Raised α) (f : α → β) :
    (do return f (← MonadExcept.ofExcept found) : Http.Sending β) =
      MonadExcept.ofExcept (found.map f) := by
  cases found <;> rfl

/-- A search for one member of each entry. -/
theorem membersNamed_findItems (channel : Channel) (pattern : Datum) (name : Text) :
    (do return .list (← (do
      MonadExcept.ofExcept (membersNamed name (← channel.findItems pattern)) :
        Http.Sending (List Datum))) : Http.Sending Datum) = (do
      let members ← channel.ask "find" pattern .none .none
      MonadExcept.ofExcept (((foundItems members).bind (membersNamed name)).map .list)) := by
  simp only [Channel.findItems, bind_assoc, ← ofExcept_map, ← ofExcept_bind]
  rfl

/-- Each call is one question, and then makes something of its answer. -/
theorem callStorage_eq (channel : Channel) (call : StorageCall) (args : List Datum)
    (isText : call = .set → ∃ t, args.getD 1 .none = .text t) :
    channel.callStorage call args = (do
      let members ← channel.ask (operationName call) (postedKey call args)
        (postedExtra call args 1) (postedExtra call args 2)
      MonadExcept.ofExcept (answered call args members)) := by
  cases call with
  | set =>
    obtain ⟨t, given⟩ := isText rfl
    simp only [Channel.callStorage, Channel.setItem, operationName, postedKey, postedExtra,
      answered, given, pure_bind]
    rfl
  | get | remove => rfl
  | find =>
    simp only [Channel.callStorage, Channel.findItems, bind_assoc, ofExcept_map]
    rfl
  | items => exact membersNamed_findItems channel everyKey "value"
  | keys => exact membersNamed_findItems channel everyKey "key"
  | clear =>
    simp only [Channel.callStorage, Channel.clear, bind_assoc, pure_bind]
    rfl

/-- Whether the body of a response is too deep to be read. -/
def TooDeep (response : Http.Response) : Prop :=
  ∃ isArray, Json.read response.text = .error (.tooDeep isArray)

/-- The members that the body of a response tells: those of an object, and any other value as the
only one. A body that is empty or cannot be read tells none. -/
def toldMembers (response : Http.Response) : List (Text × Json) :=
  match Json.read response.text with
  | .ok (.object members) => members
  | .ok v => [("value", v)]
  | .error _ => []

/-- Whether a value has the shape that a call expects. -/
def Fits (call : StorageCall) (v : Json) : Prop :=
  match call with
  | .find => (∃ t, v = .string t) ∨ (∃ items, v = .array items) ∨ ∃ members, v = .object members
  | .items | .keys => ∃ items, v = .array items ∧ ∀ item ∈ items, ∃ members, item = .object members
  | .get | .set | .remove | .clear => True

/-- Whether a call can make something of the value that it may be told: what counts as not given is
nothing found. -/
def Projects (call : StorageCall) (told : Option Json) : Prop :=
  ∀ v, told = some v → Falsy v ∨ Fits call v

/-- The message of a refusal: the text of what the body calls an error, or the status. -/
inductive Worded (response : Http.Response) : Text → Prop
  | error {error : Json} : Json.get? (toldMembers response) "error" = some error → ¬ Falsy error →
    Worded response (Datum.ofJson error).plain
  | status : NotGiven (Json.get? (toldMembers response) "error") →
    Worded response ("storage rpc failed with status " ++ Text.ofInt response.status)

/-- What the body of a response says beside the error. -/
def description (response : Http.Response) : Datum :=
  .ofJson ((Json.get? (toldMembers response) "error_description").getD .null)

/-- The ways in which a call should end: with a value, or as a failure of the storage that tells the
status of the answer. -/
inductive Ends (response : Http.Response) (next : Http.Exchange) :
    EStateM.Result Raised Http.Exchange Datum → Prop
  | value (d : Datum) : Ends response next (.ok d next)
  | failure (message : Text) (description : Datum) :
    Ends response next (.error (failure .storageError message description response.status) next)

/-- The kinds of failure of what a call does with an answer: of listing a value, of taking a member
of an entry, and of reading a body. -/
def foreignKinds : List ExceptionKind := [.typeError, .attributeError, .recursionError]

theorem isTrue_ofJson (v : Json) : (Datum.ofJson v).isTrue = false ↔ Falsy v := by
  rw [← Invocation.isGiven_eq_false_iff]
  cases v with
  | array items => cases items <;> rfl
  | object members => cases members <;> rfl
  | _ => rfl

/-- A member that is not given is replaced, and any other is not. -/
theorem orElse_entry (members : List (Text × Json)) (name : Text) (other : Datum) :
    (NotGiven (Json.get? members name) ∧
      (Datum.entry (Datum.ofJsonMembers members) name).orElse other = other) ∨
    ∃ v, Json.get? members name = some v ∧ ¬ Falsy v ∧
      (Datum.entry (Datum.ofJsonMembers members) name).orElse other = .ofJson v := by
  rw [Datum.entry_ofJsonMembers, Datum.orElse]
  cases found : Json.get? members name with
  | none => exact .inl ⟨fun _ given => (by cases given), rfl⟩
  | some v =>
    rw [Option.getD_some]
    cases true : (Datum.ofJson v).isTrue with
    | false =>
      have falsy := (isTrue_ofJson v).mp true
      exact .inl ⟨fun w same => Option.some.inj same ▸ falsy, rfl⟩
    | true =>
      refine .inr ⟨v, rfl, fun falsy => ?_, rfl⟩
      rw [(isTrue_ofJson v).mpr falsy] at true
      cases true

/-! ### What a search makes of a value -/

theorem itemsOf_ofJson (v : Json) (truthy : ¬ Falsy v) :
    (∃ items, itemsOf (.ofJson v) = .ok items) ↔
      (∃ t, v = .string t) ∨ (∃ items, v = .array items) ∨ ∃ members, v = .object members := by
  cases v with
  | null => exact absurd .null truthy
  | string t => exact ⟨fun _ => .inl ⟨t, rfl⟩, fun _ => ⟨_, rfl⟩⟩
  | array items => exact ⟨fun _ => .inr (.inl ⟨items, rfl⟩), fun _ => ⟨_, rfl⟩⟩
  | object members => exact ⟨fun _ => .inr (.inr ⟨members, rfl⟩), fun _ => ⟨_, rfl⟩⟩
  | bool _ | int _ | float _ =>
    constructor
    · rintro ⟨items, fails⟩
      cases fails
    · rintro (⟨_, other⟩ | ⟨_, other⟩ | ⟨_, other⟩) <;> cases other

/-- One member can be taken of each entry exactly if each is an object. -/
theorem membersNamed_ofJson (name : Text) (items : List Json) :
    (∃ found, membersNamed name (Datum.ofJsonItems items) = .ok found) ↔
      ∀ item ∈ items, ∃ members, item = .object members := by
  induction items with
  | nil => exact ⟨fun _ _ among => (nomatch among), fun _ => ⟨[], rfl⟩⟩
  | cons item rest ih =>
    rw [List.forall_mem_cons, ← ih, Datum.ofJsonItems]
    cases item with
    | object members =>
      rw [Datum.ofJson, membersNamed]
      constructor
      · rintro ⟨found, taken⟩
        refine ⟨⟨members, rfl⟩, ?_⟩
        cases after : membersNamed name (Datum.ofJsonItems rest) with
        | ok found => exact ⟨found, rfl⟩
        | error raised =>
          rw [after] at taken
          cases taken
      · rintro ⟨-, found, taken⟩
        rw [taken]
        exact ⟨_, rfl⟩
    | _ =>
      constructor
      · rintro ⟨found, fails⟩
        cases fails
      · rintro ⟨⟨members, other⟩, -⟩
        cases other

/-- One member can be taken of each entry of a value exactly if it is an array of objects: the
characters of a text and the names of an object are no entries. -/
theorem entriesNamed_ofJson (name : Text) (v : Json) (truthy : ¬ Falsy v) :
    (∃ found, (itemsOf (.ofJson v)).bind (membersNamed name) = .ok found) ↔
      ∃ items, v = .array items ∧ ∀ item ∈ items, ∃ members, item = .object members := by
  have misfit {raised : Raised} (other : ∀ items, v ≠ .array items)
      (fails : (itemsOf (.ofJson v)).bind (membersNamed name) = .error raised) :
      (∃ found, (itemsOf (.ofJson v)).bind (membersNamed name) = .ok found) ↔
        ∃ items, v = .array items ∧ ∀ item ∈ items, ∃ members, item = .object members := by
    rw [fails]
    refine iff_of_false ?_ ?_
    · rintro ⟨found, isOk⟩
      cases isOk
    · rintro ⟨items, same, -⟩
      exact other items same
  cases v with
  | null => exact absurd .null truthy
  | array items =>
    refine (membersNamed_ofJson name items).trans ⟨fun all => ⟨items, rfl, all⟩, ?_⟩
    rintro ⟨_, same, all⟩
    exact Json.array.inj same ▸ all
  | string t =>
    cases t with
    | nil => exact absurd .string truthy
    | cons p t => exact misfit (fun _ => Json.noConfusion) rfl
  | object members =>
    cases members with
    | nil => exact absurd .object truthy
    | cons member members => exact misfit (fun _ => Json.noConfusion) rfl
  | bool _ | int _ | float _ => exact misfit (fun _ => Json.noConfusion) rfl

theorem map_list_isOk_iff (found : Except Raised (List Datum)) :
    (∃ d, found.map Datum.list = .ok d) ↔ ∃ items, found = .ok items := by
  cases found with
  | ok items => exact ⟨fun _ => ⟨items, rfl⟩, fun _ => ⟨_, rfl⟩⟩
  | error raised => exact ⟨fun ⟨_, fails⟩ => (nomatch fails), fun ⟨_, fails⟩ => (nomatch fails)⟩

theorem projects_of_notGiven (call : StorageCall) {told : Option Json} (absent : NotGiven told) :
    Projects call told := fun v given => .inl (absent v given)

theorem projects_some (call : StorageCall) {v : Json} (truthy : ¬ Falsy v) :
    Projects call (some v) ↔ Fits call v :=
  ⟨fun projects => (projects v rfl).resolve_left truthy,
    fun fits _ same => Option.some.inj same ▸ .inr fits⟩

/-- What a call makes of its answer is a value exactly if the answer tells one of the right shape.
-/
theorem answered_isOk_iff (call : StorageCall) (args : List Datum) (members : List (Text × Json)) :
    (∃ d, answered call args (Datum.ofJsonMembers members) = .ok d) ↔
      Projects call (Json.get? members "value") := by
  obtain ⟨absent, replaced⟩ | ⟨v, told, truthy, kept⟩ := orElse_entry members "value" (.list [])
  · refine iff_of_true ?_ (projects_of_notGiven call absent)
    cases call <;> simp only [answered, foundItems, replaced] <;> exact ⟨_, rfl⟩
  · rw [told, projects_some call truthy]
    cases call with
    | get | set | remove | clear => exact ⟨fun _ => trivial, fun _ => ⟨_, rfl⟩⟩
    | find =>
      rw [answered, foundItems, kept, map_list_isOk_iff]
      exact itemsOf_ofJson v truthy
    | items =>
      rw [answered, foundItems, kept, map_list_isOk_iff]
      exact entriesNamed_ofJson "value" v truthy
    | keys =>
      rw [answered, foundItems, kept, map_list_isOk_iff]
      exact entriesNamed_ofJson "key" v truthy

theorem kind_of_itemsOf {d : Datum} {raised : Raised} (fails : itemsOf d = .error raised) :
    raised.kind = .typeError := by
  unfold itemsOf at fails
  split at fails <;> cases fails
  rfl

theorem kind_of_membersNamed {name : Text} {items : List Datum} {raised : Raised}
    (fails : membersNamed name items = .error raised) : raised.kind = .attributeError := by
  induction items with
  | nil => cases fails
  | cons item rest ih =>
    unfold membersNamed at fails
    split at fails
    · cases fails
    · next same =>
      cases same
      cases after : membersNamed name rest with
      | ok found =>
        rw [after] at fails
        cases fails
      | error other =>
        rw [after] at fails
        cases fails
        exact ih after
    · next same =>
      cases same
      cases fails
      rfl

theorem kind_of_foundItems {members : List (Datum × Datum)} {name : Text} {raised : Raised}
    (fails : (foundItems members).bind (membersNamed name) = .error raised) :
    raised.kind = .typeError ∨ raised.kind = .attributeError := by
  cases found : foundItems members with
  | error other =>
    rw [found] at fails
    cases fails
    exact .inl (kind_of_itemsOf found)
  | ok items =>
    rw [found] at fails
    exact .inr (kind_of_membersNamed fails)

/-- What a call cannot make something of is no failure of the storage. -/
theorem kind_of_answered {call : StorageCall} {args : List Datum} {members : List (Datum × Datum)}
    {raised : Raised} (fails : answered call args members = .error raised) :
    raised.kind = .typeError ∨ raised.kind = .attributeError := by
  have unmapped {found : Except Raised (List Datum)}
      (fails : found.map Datum.list = .error raised) : found = .error raised := by
    cases found <;> cases fails
    rfl
  cases call with
  | get | set | remove | clear => cases fails
  | find => exact .inl (kind_of_itemsOf (unmapped fails))
  | items | keys => exact kind_of_foundItems (unmapped fails)

/-! ### What an answer tells -/

/-- What is read of a body can be shown. -/
theorem hasHugeInt_told (response : Http.Response) (name : Text) :
    (Datum.ofJson ((Json.get? (toldMembers response) name).getD .null)).hasHugeInt = false := by
  refine Datum.hasHugeInt_ofJson _ (Json.getD_get? (fun member among => ?_) trivial name)
  unfold toldMembers at among
  split at among
  · next members reads =>
    exact (Json.limitedMembers_iff members).mp (Json.held_of_read _ _ reads).1.1 member among
  · next v _ reads =>
    rw [List.mem_singleton.mp among]
    exact (Json.held_of_read _ _ reads).1
  · cases among

/-- An answer gives the members that its body tells, or what it says cannot be read. -/
theorem answerMembers_told (response : Http.Response) (shallow : ¬ TooDeep response) :
    answerMembers response = .ok (Datum.ofJsonMembers (toldMembers response)) ∨
    ∃ refusal, refusal.isOfValue = true ∧ toldMembers response = [] ∧
      answerMembers response = .error refusal := by
  unfold answerMembers toldMembers Http.Response.json
  cases empty : response.text.isEmpty with
  | true =>
    rw [List.isEmpty_iff.mp empty]
    exact .inl rfl
  | false =>
    cases reads : Json.read response.text with
    | error refusal =>
      refine .inr ⟨refusal, ?_, rfl, rfl⟩
      cases refusal with
      | tooDeep isArray => exact absurd ⟨isArray, reads⟩ shallow
      | _ => rfl
    | ok v =>
      left
      cases v <;> rfl

theorem answerMembers_tooDeep (response : Http.Response) (deep : TooDeep response) :
    ∃ isArray, answerMembers response = .error (.tooDeep isArray) := by
  obtain ⟨isArray, reads⟩ := deep
  unfold answerMembers Http.Response.json
  cases empty : response.text.isEmpty with
  | true =>
    rw [List.isEmpty_iff.mp empty] at reads
    cases reads
  | false =>
    rw [reads]
    exact ⟨isArray, rfl⟩

/-- The message of a refusal can always be made. -/
theorem shownText_error (response : Http.Response) :
    ∃ message, Worded response message ∧
      Http.shownText ((Datum.entry (Datum.ofJsonMembers (toldMembers response)) "error").orElse
        (.text ("storage rpc failed with status " ++ Text.ofInt response.status))) =
        .ok message := by
  obtain ⟨absent, replaced⟩ | ⟨v, told, truthy, kept⟩ := orElse_entry (toldMembers response) "error"
    (.text ("storage rpc failed with status " ++ Text.ofInt response.status))
  · rw [replaced]
    exact ⟨_, .status absent, rfl⟩
  · have small := hasHugeInt_told response "error"
    rw [told, Option.getD_some] at small
    rw [kept, Http.shownText, small]
    exact ⟨_, .error told truthy, rfl⟩

/-! ### How a call ends -/

section Called

variable {channel : Channel} {call : StorageCall} {args : List Datum}
  {exchange next : Http.Exchange} {response : Http.Response}
  (isText : call = .set → ∃ t, args.getD 1 .none = .text t)

include isText

/-- A question that fails is a call that fails. -/
theorem callStorage_of_failed {raised : Raised}
    (asked : channel.ask (operationName call) (postedKey call args) (postedExtra call args 1)
      (postedExtra call args 2) exchange = .error raised next) :
    channel.callStorage call args exchange = .error raised next := by
  rw [callStorage_eq channel call args isText]
  simp only [bind, EStateM.bind, asked]

theorem callStorage_of_asked {members : List (Datum × Datum)}
    (asked : channel.ask (operationName call) (postedKey call args) (postedExtra call args 1)
      (postedExtra call args 2) exchange = .ok members next) :
    channel.callStorage call args exchange =
      match answered call args members with
      | .ok d => .ok d next
      | .error raised => .error raised next := by
  rw [callStorage_eq channel call args isText]
  simp only [bind, EStateM.bind, asked]
  cases answered call args members <;> rfl

variable (posted : channel.post storagePath (postedMembers call args) exchange = .ok response next)

include posted

/-- A refusal that can be read is a failure of the storage in the words of the body, and one that
cannot is told as one without a body. -/
theorem callStorage_refused (shallow : ¬ TooDeep response)
    (refused : isStorageSuccess response.status = false) :
    ∃ message, Worded response message ∧ channel.callStorage call args exchange =
      .error (failure .storageError message (description response) response.status) next := by
  obtain told | ⟨refusal, ofValue, empty, unread⟩ := answerMembers_told response shallow
  · obtain ⟨message, worded, shown⟩ := shownText_error response
    refine ⟨message, worded, callStorage_of_failed isText ?_⟩
    rw [description, ← Datum.entry_ofJsonMembers]
    exact ask_refused posted told refused message shown
  · refine ⟨_, .status fun v given => ?_, callStorage_of_failed isText ?_⟩
    · rw [empty] at given
      cases given
    · rw [description, empty]
      exact ask_refused_unreadable posted unread ofValue refused

/-- An answer of success gives a value, or is a failure of the storage because it cannot be read,
exactly if what it tells has the shape that the call expects. -/
theorem callStorage_success (shallow : ¬ TooDeep response)
    (success : isStorageSuccess response.status = true) :
    Ends response next (channel.callStorage call args exchange) ↔
      Projects call (Json.get? (toldMembers response) "value") := by
  obtain told | ⟨refusal, ofValue, empty, unread⟩ := answerMembers_told response shallow
  · rw [callStorage_of_asked isText (ask_success posted told success),
      ← answered_isOk_iff call args]
    cases made : answered call args (Datum.ofJsonMembers (toldMembers response)) with
    | ok d => exact ⟨fun _ => ⟨d, rfl⟩, fun _ => .value d⟩
    | error raised =>
      refine iff_of_false (fun ends => ?_) fun ⟨_, other⟩ => (nomatch other)
      -- a failure of the storage has a kind that no other failure has
      obtain kind | kind := kind_of_answered made <;> cases ends <;> cases kind
  · rw [callStorage_of_failed isText (ask_unreadable posted unread ofValue success), empty]
    exact iff_of_true (.failure _ _) fun v given => (nomatch given)

/-- A body that is too deep to be read is no failure of the storage. -/
theorem callStorage_tooDeep (deep : TooDeep response) :
    ∃ message, channel.callStorage call args exchange =
      .error (.of .recursionError message) next := by
  obtain ⟨isArray, unread⟩ := answerMembers_tooDeep response deep
  exact ⟨_, callStorage_of_failed isText (ask_tooDeep posted unread rfl)⟩

/-- A call that ends in no way of its own fails with the complaint of a projection or of the
reader. -/
theorem callStorage_foreign
    (foreign : ¬ Ends response next (channel.callStorage call args exchange)) :
    ∃ raised, channel.callStorage call args exchange = .error raised next ∧
      raised.kind ∈ foreignKinds := by
  by_cases deep : TooDeep response
  · obtain ⟨message, fails⟩ := callStorage_tooDeep isText posted deep
    exact ⟨_, fails, (by decide : ExceptionKind.recursionError ∈ foreignKinds)⟩
  cases success : isStorageSuccess response.status with
  | false =>
    obtain ⟨message, -, fails⟩ := callStorage_refused isText posted deep success
    exact absurd (fails ▸ .failure _ _) foreign
  | true =>
    obtain told | ⟨refusal, ofValue, -, unread⟩ := answerMembers_told response deep
    · rw [callStorage_of_asked isText (ask_success posted told success)] at foreign ⊢
      cases made : answered call args (Datum.ofJsonMembers (toldMembers response)) with
      | ok d => exact absurd (made ▸ .value d) foreign
      | error raised =>
        refine ⟨raised, rfl, ?_⟩
        obtain kind | kind := kind_of_answered made <;> rw [kind] <;> decide
    · rw [callStorage_of_failed isText (ask_unreadable posted unread ofValue success)] at foreign
      exact absurd (.failure _ _) foreign

end Called

/-- A call whose answer came gives a value or fails as the storage does, with the status of the
answer, exactly if the body is not too deep to be read and, where the status tells of success, what
it tells has the shape that the call expects. Any other status is a failure of the storage in the
words of the body. What else escapes is the complaint of a projection or of the reader. -/
theorem callStorage_ends_iff (channel : Channel) (call : StorageCall) (args : List Datum)
    (exchange next : Http.Exchange) (response : Http.Response)
    (isText : call = .set → ∃ t, args.getD 1 .none = .text t)
    (posted : channel.post storagePath (postedMembers call args) exchange = .ok response next) :
    (Ends response next (channel.callStorage call args exchange) ↔
      ¬ TooDeep response ∧ (isStorageSuccess response.status = true →
        Projects call (Json.get? (toldMembers response) "value"))) ∧
    (¬ TooDeep response → isStorageSuccess response.status = false →
      ∃ message, Worded response message ∧ channel.callStorage call args exchange =
        .error (failure .storageError message (description response) response.status) next) ∧
    (¬ Ends response next (channel.callStorage call args exchange) →
      ∃ raised, channel.callStorage call args exchange = .error raised next ∧
        raised.kind ∈ foreignKinds) := by
  refine ⟨?_, callStorage_refused isText posted, callStorage_foreign isText posted⟩
  by_cases deep : TooDeep response
  · obtain ⟨message, fails⟩ := callStorage_tooDeep isText posted deep
    rw [fails]
    refine iff_of_false (fun ends => ?_) fun both => both.1 deep
    cases ends
  · rw [and_iff_right deep]
    cases success : isStorageSuccess response.status with
    | true =>
      rw [forall_prop_of_true rfl]
      exact callStorage_success isText posted deep success
    | false =>
      obtain ⟨message, -, fails⟩ := callStorage_refused isText posted deep success
      rw [fails]
      exact iff_of_true (.failure _ _) fun other => (nomatch other)

/-- A response of success that tells a number. -/
def numberTold : Http.Response := ⟨200, [], some "\x7b\"value\":5\x7d", "OK"⟩

/-- A number cannot be listed by a search: that is no failure of the storage. -/
theorem findItems_numberTold :
    ∃ next, (⟨"http://x", some "m", []⟩ : Channel).post storagePath
        (postedMembers .find [.text "k"]) ⟨⟨fun _ _ => .response numberTold⟩, []⟩ =
        .ok numberTold next ∧
      ¬ Ends numberTold next ((⟨"http://x", some "m", []⟩ : Channel).callStorage .find [.text "k"]
        ⟨⟨fun _ _ => .response numberTold⟩, []⟩) := by
  refine ⟨_, rfl, fun ends => ?_⟩
  obtain ⟨⟨limited, shallow⟩, proper⟩ : Echoed Json.maxDepth (.object [("value", .int 5)]) := by
    refine echoed_object 969 _ (List.nodup_singleton _) fun member among => ?_
    rw [List.mem_singleton.mp among]
    have few : Json.tooManyDigits 5 = false := by decide +kernel
    exact ⟨rfl, ⟨few, Nat.zero_le _⟩, trivial⟩
  have reads := Json.read_render_of_limited .compact Json.Style.compact_lawful _ limited proper
    shallow
  have written : numberTold.text = Json.render .compact (.object [("value", .int 5)]) := by
    decide +kernel
  have told : Json.get? (toldMembers numberTold) "value" = some (.int 5) := by
    rw [toldMembers, written, reads]
    rfl
  have projects := ((callStorage_ends_iff _ .find [.text "k"] _ _ numberTold (fun other =>
    nomatch other) rfl).1.mp ends).2 (by decide) (.int 5) told
  obtain falsy | ⟨_, other⟩ | ⟨_, other⟩ | ⟨_, other⟩ := projects
  · cases falsy
  all_goals cases other

end PhaseScript.Rpc
