import PhaseScript.Proofs.Rpc.Failures
/-
What the calls of a script send to the service it is bound to. Each call posts one request, whatever
is answered, unless what it is given cannot be written; all requests carry the headers of the
channel.
-/
set_option autoImplicit false

namespace PhaseScript

namespace Http

/-- The exchange after a step, whether or not the step raises. -/
def exchangeAfter {α : Type} (step : Sending α) (before : Exchange) : Exchange :=
  match step before with
  | .ok _ after | .error _ after => after

/-- A step that sends nothing. -/
def Quiet {α : Type} (step : Sending α) : Prop := ∀ before, exchangeAfter step before = before

section Quiet

variable {α β : Type}

theorem quiet_pure (a : α) : Quiet (pure a : Sending α) := fun _ => rfl

theorem quiet_throw (raised : Raised) : Quiet (throw raised : Sending α) := fun _ => rfl

theorem quiet_ofExcept (outcome : Except Raised α) :
    Quiet (MonadExcept.ofExcept outcome : Sending α) := by
  cases outcome <;> exact fun _ => rfl

/-- What comes after a step and sends nothing leaves the exchange as the step left it. -/
theorem exchangeAfter_bind (step : Sending α) (next : α → Sending β) (quiet : ∀ a, Quiet (next a))
    (before : Exchange) : exchangeAfter (step >>= next) before = exchangeAfter step before := by
  simp only [exchangeAfter, bind, EStateM.bind]
  cases step before with
  | ok a after => exact quiet a after
  | error raised after => rfl

theorem Quiet.bind {step : Sending α} {next : α → Sending β} (quiet : Quiet step)
    (quiet' : ∀ a, Quiet (next a)) : Quiet (step >>= next) := fun before =>
  (exchangeAfter_bind step next quiet' before).trans (quiet before)

end Quiet

/-- What is asked for is sent, whatever is answered. -/
theorem exchangeAfter_ask (request : Request) (before : Exchange) :
    exchangeAfter (ask request) before = before.behind (some request) := by
  unfold exchangeAfter ask
  rw [Exchange.send]
  cases before.client.answer before.requests request <;> rfl

end Http

namespace Rpc

open Http (Sending Exchange exchangeAfter Quiet)

/-- The request that a channel posts to a path. -/
def Channel.request (channel : Channel) (path body : Text) : Http.Request :=
  ⟨.text "POST", .text (channel.baseUrl ++ path), Http.headerEntries channel.headers, .text body⟩

/-- The request that carries members, if they can be written. -/
def Channel.carrying? (channel : Channel) (path : Text) (members : List (Text × Datum)) :
    Option Http.Request :=
  (Http.jsonBody (Datum.ofMembers members)).toOption.map (channel.request path)

section Calls

variable (channel : Channel)

/-- Members that can be written are posted once, and others not at all. -/
theorem exchangeAfter_post (path : Text) (members : List (Text × Datum)) (before : Exchange) :
    exchangeAfter (channel.post path members) before =
      before.behind (channel.carrying? path members) := by
  rw [Channel.post, Channel.carrying?]
  cases Http.jsonBody (Datum.ofMembers members) with
  | ok body =>
    rw [Http.ofExcept_ok_bind, request_post, Http.exchangeAfter_ask]
    rfl
  | error raised => rfl

/-- The members of a line of the log. -/
def logMembers (level : Datum) (messages : List Datum) : List (Text × Datum) :=
  [("module", optionalText channel.module), ("level", level), ("messages", .list messages)]

/-- Of the answer only the status is looked at. -/
theorem exchangeAfter_log (level : Datum) (messages : List Datum) (before : Exchange) :
    exchangeAfter (channel.log level messages) before =
      before.behind (channel.carrying? loggerPath (logMembers channel level messages)) := by
  rw [← exchangeAfter_post]
  refine Http.exchangeAfter_bind _ _ (fun answer => ?_) before
  split
  · exact Http.quiet_throw _
  · exact Http.quiet_pure _

/-- What is made of the answer sends nothing more. -/
theorem exchangeAfter_askFor (operation : Text) (key value options : Datum) (before : Exchange) :
    exchangeAfter (channel.ask operation key value options) before =
      before.behind (channel.carrying? storagePath
        [("operation", .text operation), ("key", key), ("value", value), ("opts", options)]) := by
  rw [← exchangeAfter_post]
  refine Http.exchangeAfter_bind _ _ (fun answer => ?_) before
  extract_lets told
  have quiet (members : List (Datum × Datum)) : Quiet (told members) := by
    simp only [told]
    split
    · exact (Http.quiet_ofExcept _).bind fun message => fun _ => rfl
    · exact Http.quiet_pure _
  split
  · exact quiet _
  · split
    · exact fun _ => rfl
    · split
      · exact fun _ => rfl
      · exact quiet _

/-- The arguments of a call with the text that is kept in the place of the value, if there is one:
only what is to be kept must have a text. -/
def keptArgs? (call : Machine.StorageCall) (args : List Datum) : Option (List Datum) :=
  match call with
  | .set => (Call.keptText (args.getD 1 .none)).toOption.map fun kept =>
    [args.getD 0 .none, .text kept, args.getD 2 .none]
  | _ => some args

/-- A value is kept as the text that it comes to. -/
theorem setItem_kept {value : Datum} {kept : Text} (isKept : Call.keptText value = .ok kept)
    (key options : Datum) :
    channel.setItem key value options = channel.setItem key (.text kept) options := by
  cases value
  case text t =>
    cases isKept
    rfl
  all_goals
    have isKept : Datum.jsonText _ = .ok kept := isKept
    simp only [Channel.setItem, isKept]

/-- A value that has no text is refused before anything is posted. -/
theorem exchangeAfter_callStorage (call : Machine.StorageCall) (args : List Datum)
    (before : Exchange) : exchangeAfter (channel.callStorage call args) before =
      before.behind ((keptArgs? call args).bind fun args =>
        channel.carrying? storagePath (postedMembers call args)) := by
  have asked (args : List Datum) (isText : call = .set → ∃ t, args.getD 1 .none = .text t) :
      exchangeAfter (channel.callStorage call args) before =
        before.behind (channel.carrying? storagePath (postedMembers call args)) := by
    rw [callStorage_eq channel call args isText,
      Http.exchangeAfter_bind _ _ (fun _ => Http.quiet_ofExcept _), exchangeAfter_askFor]
    rfl
  cases call
  case set =>
    rw [keptArgs?]
    cases isKept : Call.keptText (args.getD 1 .none) with
    | ok kept =>
      have same : channel.callStorage .set args =
          channel.callStorage .set [args.getD 0 .none, .text kept, args.getD 2 .none] := by
        simp only [Channel.callStorage, setItem_kept channel isKept]
        rfl
      rw [same, asked _ fun _ => ⟨kept, rfl⟩]
      rfl
    | error refusal =>
      simp only [Channel.callStorage, exchangeAfter,
        setItem_unwritten channel before _ _ _ refusal isKept]
      rfl
  all_goals exact asked args fun isSet => by cases isSet

end Calls

/-- A call of a script to the service it is bound to: a line of the log, or a call of the storage.
-/
inductive ServiceCall where
  | console (level : Datum) (messages : List Datum)
  | storage (call : Machine.StorageCall) (args : List Datum)

namespace ServiceCall

/-- The path that the request of a call goes to. -/
def path : ServiceCall → Text
  | .console _ _ => loggerPath
  | .storage _ _ => storagePath

/-- Makes the call, whatever comes back. -/
def make (channel : Channel) : ServiceCall → Sending Unit
  | .console level messages => channel.log level messages
  | .storage call args => do
    let _ ← channel.callStorage call args

/-- The members that a call posts, if it comes so far. -/
def members? (channel : Channel) : ServiceCall → Option (List (Text × Datum))
  | .console level messages => some (logMembers channel level messages)
  | .storage call args => (keptArgs? call args).map (postedMembers call)

/-- The request that a call posts, if there is one. -/
def request? (channel : Channel) (call : ServiceCall) : Option Http.Request :=
  (call.members? channel).bind (channel.carrying? call.path)

/-- A call posts its request, and nothing else. -/
theorem exchangeAfter_make (channel : Channel) (call : ServiceCall) (before : Exchange) :
    exchangeAfter (call.make channel) before = before.behind (call.request? channel) := by
  cases call with
  | console level messages => exact exchangeAfter_log channel level messages before
  | storage call args =>
    rw [make, Http.exchangeAfter_bind _ _ (fun _ => Http.quiet_pure _), exchangeAfter_callStorage,
      request?, members?, Option.bind_map]
    rfl

/-- What is posted is a request of the channel. -/
theorem eq_request_of_request? {channel : Channel} {call : ServiceCall} {request : Http.Request}
    (posted : call.request? channel = some request) :
    ∃ members body, call.members? channel = some members ∧
      Http.jsonBody (Datum.ofMembers members) = .ok body ∧
      request = channel.request call.path body := by
  obtain ⟨members, isMembers, carried⟩ := Option.bind_eq_some_iff.mp posted
  obtain ⟨body, isBody, rfl⟩ := Option.map_eq_some_iff.mp carried
  refine ⟨members, body, isMembers, ?_, rfl⟩
  cases made : Http.jsonBody (Datum.ofMembers members) with
  | ok t => rw [made] at isBody; exact congrArg Except.ok (Option.some.inj isBody)
  | error raised => rw [made] at isBody; cases isBody

theorem make_posts (channel : Channel) (call : ServiceCall) (before : Exchange) :
    exchangeAfter (call.make channel) before = before ∨ ∃ body,
      exchangeAfter (call.make channel) before =
        { before with sent := channel.request call.path body :: before.sent } := by
  rw [exchangeAfter_make]
  cases posted : call.request? channel with
  | none => exact .inl rfl
  | some request =>
    obtain ⟨members, body, -, -, rfl⟩ := eq_request_of_request? posted
    exact .inr ⟨body, rfl⟩

/-- A call posts a request: with it, and it alone, the exchange is longer than before. -/
def Posts (call : ServiceCall) (channel : Channel) (before : Exchange) (request : Http.Request) :
    Prop :=
  exchangeAfter (call.make channel) before = { before with sent := request :: before.sent }

/-- What a call posts is a request of the channel. -/
theorem Posts.eq_request {call : ServiceCall} {channel : Channel} {before : Exchange}
    {request : Http.Request} (posts : call.Posts channel before request) :
    ∃ body, request = channel.request call.path body := by
  have grows : ∀ after : Exchange, exchangeAfter (call.make channel) before = after →
      request :: before.sent = after.sent := fun after same => by
    rw [← same, posts]
  obtain none | ⟨body, one⟩ := make_posts channel call before
  · exact absurd (grows _ none) (List.cons_ne_self _ _)
  · exact ⟨body, (List.cons.inj (grows _ one)).1⟩

/-- Emptying the storage posts a request, since there is nothing in it that cannot be written. -/
theorem clear_posts (channel : Channel) (before : Exchange) :
    (ServiceCall.storage .clear []).Posts channel before
      (channel.request storagePath (callBody "clear" none none .none)) := by
  have written := jsonBody_callMembers "clear" none none sendable_none
  have posted : (ServiceCall.storage .clear []).request? channel =
      some (channel.request storagePath (callBody "clear" none none .none)) :=
    congrArg (fun made => made.toOption.map (channel.request storagePath)) written
  rw [Posts, exchangeAfter_make, posted]
  rfl

/-- The JSON of a call of the storage. -/
def storageJson (operation : Text) (key value options : Json) : Json :=
  .object [("operation", .string operation), ("key", key), ("value", value), ("opts", options)]

/-- The JSON of a call: for a line of the log the module, the level and the messages, and for a call
of the storage the operation, the key, the text that is to be kept, and the options. -/
def payload? (module : Option Text) : ServiceCall → Option Json
  | .console level messages =>
    some (.object [("module", optionalJson module), ("level", level.jsonSafe),
      ("messages", .array (messages.map Datum.jsonSafe))])
  | .storage call args =>
    let key := (args.getD 0 .none).jsonSafe
    match call with
    | .get => some (storageJson "get" key .null .null)
    | .set =>
      (Call.keptText (args.getD 1 .none)).toOption.map fun kept =>
        storageJson "set" key (.string kept) (args.getD 2 .none).jsonSafe
    | .remove => some (storageJson "remove" key .null .null)
    | .find => some (storageJson "find" key .null .null)
    | .items | .keys => some (storageJson "find" (.string ".*") .null .null)
    | .clear => some (storageJson "clear" .null .null .null)

theorem payload_eq (channel : Channel) (call : ServiceCall) :
    call.payload? channel.module =
      (call.members? channel).map fun members => (Datum.ofMembers members).jsonSafe := by
  cases call with
  | console level messages =>
    rw [payload?, ← jsonSafe_optionalText, ← Datum.jsonSafeAll_eq_map]
    rfl
  | storage call args =>
    cases call
    case set =>
      simp only [payload?, members?, keptArgs?]
      cases Call.keptText (args.getD 1 .none) <;> rfl
    all_goals rfl

/-- A call that posts nothing: it would keep a value that is no text and has no JSON text, or there
is no JSON text of the members that it would post. -/
inductive Refused (channel : Channel) : ServiceCall → Prop
  | value {args : List Datum} {refusal : Datum.JsonRefusal}
      (noText : ∀ t, args.getD 1 .none ≠ .text t)
      (refused : (args.getD 1 .none).jsonText = .error refusal) :
      Refused channel (.storage .set args)
  | members {call : ServiceCall} {members : List (Text × Datum)} {raised : Raised}
      (posts : call.members? channel = some members)
      (refused : Http.jsonBody (Datum.ofMembers members) = .error raised) : Refused channel call

theorem members_eq_none_iff {channel : Channel} {call : ServiceCall} :
    call.members? channel = none ↔ ∃ args refusal, call = .storage .set args ∧
      (∀ t, args.getD 1 .none ≠ .text t) ∧ (args.getD 1 .none).jsonText = .error refusal := by
  constructor
  · intro none
    obtain _ | ⟨called, args⟩ := call
    · cases none
    cases called
    case set =>
      simp only [members?, keptArgs?, Option.map_eq_none_iff] at none
      cases isKept : Call.keptText (args.getD 1 .none) with
      | ok kept =>
        rw [isKept] at none
        cases none
      | error refusal =>
        have noText : ∀ t, args.getD 1 .none ≠ .text t := by
          intro t isText
          rw [isText] at isKept
          cases isKept
        rw [Call.keptText.eq_2 _ noText] at isKept
        exact ⟨args, refusal, rfl, noText, isKept⟩
    all_goals cases none
  · rintro ⟨args, refusal, rfl, noText, refused⟩
    simp only [members?, keptArgs?, Call.keptText.eq_2 _ noText, refused]
    rfl

theorem request_eq_none_iff {channel : Channel} {call : ServiceCall} :
    call.request? channel = none ↔ call.Refused channel := by
  rw [request?, Option.bind_eq_none_iff]
  constructor
  · intro none
    cases posts : call.members? channel with
    | none =>
      obtain ⟨args, refusal, rfl, noText, refused⟩ := members_eq_none_iff.mp posts
      exact .value noText refused
    | some members =>
      have unmade := none members posts
      rw [Channel.carrying?] at unmade
      cases made : Http.jsonBody (Datum.ofMembers members) with
      | ok body =>
        rw [made] at unmade
        cases unmade
      | error raised => exact .members posts made
  · rintro (⟨noText, refused⟩ | ⟨posts, refused⟩) members isMembers
    · cases (members_eq_none_iff.mpr ⟨_, _, rfl, noText, refused⟩).symm.trans isMembers
    · cases posts.symm.trans isMembers
      rw [Channel.carrying?, refused]
      rfl

/-- What a call posts: a request to its path, which is read as its JSON, but for halves of surrogate
pairs that have come to stand side by side. -/
structure Posted (channel : Channel) (call : ServiceCall) (request : Http.Request) : Prop where
  verb : request.verb = .text "POST"
  url : request.url = .text (channel.baseUrl ++ call.path)
  body : ∃ payload t, call.payload? channel.module = some payload ∧ request.body = .text t ∧
    Json.read t = .ok (Json.reread true payload) ∧
    (Json.Whole payload → Json.read t = .ok payload)

theorem posted_of_request? {channel : Channel} {call : ServiceCall} {request : Http.Request}
    (posts : call.request? channel = some request) : call.Posted channel request := by
  obtain ⟨members, t, isMembers, made, rfl⟩ := eq_request_of_request? posts
  have isPayload : call.payload? channel.module = some (Datum.ofMembers members).jsonSafe := by
    rw [payload_eq, isMembers]
    rfl
  exact ⟨rfl, rfl, _, t, isPayload, rfl, Http.read_jsonBody made⟩

end ServiceCall

end Rpc

end PhaseScript
