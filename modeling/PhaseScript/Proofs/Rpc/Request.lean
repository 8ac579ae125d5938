import PhaseScript.Proofs.Http.Fetch
import PhaseScript.Proofs.Json.Grammar
import PhaseScript.Proofs.Service.Storage
import PhaseScript.Rpc.Channel
import PhaseScript.Service.Plugins
/-
From a call of a script to the call that the service reads: the members are written as JSON text,
sent as octets with a header that says so, and read as the same members.
-/
set_option autoImplicit false

namespace PhaseScript.Rpc

open Service (endpoint? header? saysJson readBody StorageOperation)

/-- A datum that can be put into a dict of its own and made JSON-safe with it. -/
structure Postable (d : Datum) : Prop where
  acyclic : d.hasCycle = false
  shallow : 2 * (d.depth + 1) ≤ Datum.depthLimit
  short : d.hasHugeInt = false

theorem postable_text (t : Text) : Postable (.text t) where
  acyclic := rfl
  shallow := show 2 * (0 + 1) ≤ Datum.depthLimit by decide
  short := rfl

theorem postable_optionalText (t : Option Text) : Postable (optionalText t) := by
  cases t with
  | none => exact ⟨rfl, by decide, rfl⟩
  | some t => exact postable_text t

/-- Members that can be posted have a JSON text if their JSON-safe form can be written. -/
theorem jsonBody_ofMembers {members : List (Text × Datum)}
    (postable : ∀ member ∈ members, Postable member.2)
    (written : Json.writeFault? false (Datum.ofMembers members).jsonSafe = none) :
    Http.jsonBody (Datum.ofMembers members) =
      .ok (Json.render .spaced (Datum.ofMembers members).jsonSafe) := by
  have all : (Datum.ofMembers members).hasCycle = false ∧
      2 * (Datum.ofMembers members).depth ≤ Datum.depthLimit ∧
      (Datum.ofMembers members).hasHugeInt = false := by
    simp only [Datum.ofMembers, Datum.hasCycle, Datum.depth, Datum.hasHugeInt]
    clear written
    induction members with
    | nil => exact ⟨rfl, by decide, rfl⟩
    | cons member members ih =>
      obtain ⟨first, others⟩ := List.forall_mem_cons.mp postable
      obtain ⟨acyclic, shallow, short⟩ := ih others
      have room := first.shallow
      simp only [List.map_cons, Datum.anyCycleEntry, Datum.depthOfEntries, Datum.anyHugeEntry,
        Datum.hasCycle, Datum.depth, Datum.hasHugeInt, first.acyclic, first.short, acyclic, short,
        Bool.or_false, true_and, and_true]
      omega
  obtain ⟨acyclic, shallow, short⟩ := all
  refine Http.jsonBody_eq_ok_iff.mpr ⟨?_, short, written, rfl⟩
  rw [Datum.isTooDeep, acyclic, Bool.false_or, decide_eq_false_iff_not]
  omega

/-- Options that can be sent: none, or a dict whose JSON-safe form can be written. -/
structure Sendable (options : Datum) : Prop where
  shape : options = .none ∨ ∃ entries, options = .dict entries
  acyclic : options.hasCycle = false
  shallow : 2 * (options.depth + 1) ≤ Datum.depthLimit
  short : options.hasHugeInt = false
  written : Json.writeFault? false options.jsonSafe = none

theorem sendable_none : Sendable .none := ⟨Or.inl rfl, rfl, by decide, rfl, rfl⟩

/-- A call in scalar values whose options can be sent. -/
structure Speakable (operation : Text) (key value : Option Text) (options : Datum) : Prop where
  operation : operation.isScalar = true
  key : Text.ScalarIfAny key
  value : Text.ScalarIfAny value
  options : Sendable options

/-- A call on a key alone. -/
theorem speakable_key (operation : Text) (names : operation.isScalar = true) (key : Text)
    (scalar : key.isScalar = true) :
    Speakable operation (some key) none .none :=
  ⟨names, Text.scalarIfAny_some key scalar, Text.scalarIfAny_none, sendable_none⟩

/-- The members of a call on a key, with a text as its value. -/
def callMembers (operation : Text) (key value : Option Text) (options : Datum) :
    List (Text × Datum) :=
  [("operation", .text operation), ("key", optionalText key), ("value", optionalText value),
  ("opts", options)]

def optionalJson : Option Text → Json
  | some t => .string t
  | none => .null

/-- The members as they are written. -/
def callJson (operation : Text) (key value : Option Text) (options : Json) : Json :=
  .object [("operation", .string operation), ("key", optionalJson key),
  ("value", optionalJson value), ("opts", options)]

theorem jsonSafe_optionalText (t : Option Text) : (optionalText t).jsonSafe = optionalJson t := by
  cases t <;> rfl

theorem jsonSafe_callMembers (operation : Text) (key value : Option Text) (options : Datum) :
    (Datum.ofMembers (callMembers operation key value options)).jsonSafe =
      callJson operation key value options.jsonSafe := by
  rw [callJson, ← jsonSafe_optionalText, ← jsonSafe_optionalText]
  rfl

/-- The text that is posted. -/
def callBody (operation : Text) (key value : Option Text) (options : Datum) : Text :=
  Json.render .spaced (callJson operation key value options.jsonSafe)

theorem printable_callBody (operation : Text) (key value : Option Text) (options : Datum) :
    (callBody operation key value options).Printable :=
  Json.printable_renderAt 0 _

variable {operation : Text} {key value : Option Text} {options : Datum}

theorem written_callJson (sendable : Sendable options) :
    Json.writeFault? false (callJson operation key value options.jsonSafe) = none := by
  have text (t : Option Text) : Json.writeFault? false (optionalJson t) = none := by
    cases t <;> rfl
  simp only [callJson, Json.writeFault?, Json.membersFault?, text, sendable.written, Option.or_none]

variable (operation key value) in
/-- Members whose options can be sent are written. -/
theorem jsonBody_callMembers (sendable : Sendable options) :
    Http.jsonBody (Datum.ofMembers (callMembers operation key value options)) =
      .ok (callBody operation key value options) := by
  have postable : Postable options := ⟨sendable.acyclic, sendable.shallow, sendable.short⟩
  rw [callBody, ← jsonSafe_callMembers]
  refine jsonBody_ofMembers ?_ ?_
  · simp only [callMembers, List.forall_mem_cons]
    exact ⟨postable_text operation, postable_optionalText key, postable_optionalText value,
      postable, nofun⟩
  · rw [jsonSafe_callMembers, written_callJson sendable]

/-- The members are read as they were written, the options perhaps with other texts. -/
theorem read_callBody (speakable : Speakable operation key value options) :
    Json.read (callBody operation key value options) =
      .ok (callJson operation key value (Json.reread true options.jsonSafe)) := by
  have text (t : Option Text) (scalar : Text.ScalarIfAny t) : Json.reread true (optionalJson t) =
      optionalJson t := by
    cases t with
    | none => rfl
    | some s => rw [optionalJson, Json.reread, Json.rereadText_of_scalar true s (scalar s rfl)]
  have fixed (s : Text) (scalar : s.isScalar = true) : Json.rereadText true s = s :=
    Json.rereadText_of_scalar true s scalar
  have distinct :
      (([("operation", .string operation), ("key", optionalJson key), ("value", optionalJson value),
      ("opts", Json.reread true options.jsonSafe)] : List (Text × Json)).map (·.1)).Nodup := by
    simp only [List.map_cons, List.map_nil]
    decide
  have made := jsonBody_callMembers operation key value speakable.options
  rw [(Http.read_jsonBody made).1, jsonSafe_callMembers]
  simp only [callJson, Json.reread, Json.rereadMembers, text key speakable.key,
    text value speakable.value, fixed operation speakable.operation, fixed "operation" rfl,
    fixed "key" rfl, fixed "value" rfl, fixed "opts" rfl]
  rw [Json.foldl_put_of_nodup _ [] distinct, List.nil_append]

/-- Options that can be sent are read as none or as an object. -/
theorem reread_options (sendable : Sendable options) :
    Json.reread true options.jsonSafe = .null ∨ ∃ members, Json.reread true options.jsonSafe =
    .object members := by
  obtain rfl | ⟨entries, rfl⟩ := sendable.shape
  · exact Or.inl rfl
  · exact Or.inr ⟨_, by rw [Datum.jsonSafe, Json.reread]⟩

/-- The service reads the members that are written in printable characters. -/
theorem bodyMembers_printable (request : Service.Incoming) {t : Text} {members : List (Text × Json)}
    (said : saysJson request.headers = true) (body : request.body = Utf8.encode t)
    (printable : t.Printable) (read : Json.read t = .ok (.object members)) :
    Service.bodyMembers request = .ok members := by
  have some_ : request.body.isEmpty = false := by
    rw [body, Utf8.encode_of_printable _ printable, List.isEmpty_map]
    cases t with
    | nil => cases read
    | cons p rest => rfl
  have decoded : decodeMessage request.body = .ok t := by
    rw [body, decodeMessage_printable _ printable]
  exact Service.bodyMembers_of_read request _ _ said some_ decoded read

/-- The service reads the call that was made. -/
theorem readBody_call (request : Service.Incoming) (said : saysJson request.headers = true)
    (body : request.body = Utf8.encode (callBody operation key value options))
    (speakable : Speakable operation key value options) :
    ∃ given, readBody Service.StorageCall.check request =
    .ok ⟨operation, key, optionalJson value, given⟩ := by
  have members := bodyMembers_printable request said body
    (printable_callBody operation key value options) (read_callBody speakable)
  rw [readBody, members]
  obtain none | ⟨given, object⟩ := reread_options speakable.options
  · rw [none]
    cases key <;> exact ⟨_, rfl⟩
  · rw [object]
    cases key <;> exact ⟨some given, rfl⟩

/-- The first header of a name, after another header was put. -/
theorem header?_putHeader (name value wanted : Text) (headers : Http.Headers)
    (other : name.lower ≠ wanted.lower) :
    header? (Http.putHeader name value headers) wanted = header? headers wanted := by
  have apart : (name.lower == wanted.lower) = false := beq_eq_false_iff_ne.mpr other
  induction headers with
  | nil => simp only [Http.putHeader, header?, List.find?_cons, apart, List.find?_nil]
  | cons header rest ih =>
    obtain ⟨n, v⟩ := header
    unfold header? at ih ⊢
    rw [Http.putHeader]
    split
    · next same => simp only [List.find?_cons, apart, beq_iff_eq.mp same]
    · rw [List.find?_cons, List.find?_cons]
      cases n.lower == wanted.lower with
      | true => rfl
      | false => exact ih

/-- The headers of every call say that its body is JSON, unless the caller names another kind. -/
theorem header?_callHeaders (module : Option Text) (given : Http.Headers)
    (unnamed : ∀ header ∈ given, Http.namesContentType header = false) :
    header? (callHeaders module given) "content-type" = some Service.jsonType := by
  have accept : (Text.lower "Accept" == Text.lower "content-type") = false := by decide
  have kind : (Text.lower "Content-Type" == Text.lower "content-type") = true := by decide
  have same : Text.lower "content-type" = Http.contentType := by decide
  have usual (tag : Http.Headers) :
      header? (("Accept", Service.jsonType) :: ("Content-Type", Service.jsonType) :: tag)
      "content-type" = some Service.jsonType := by
    simp only [header?, List.find?_cons, accept, kind, Option.map_some]
  have kept (headers : Http.Headers) : header? (given.foldl
      (fun headers header => Http.putHeader header.1 header.2 headers) headers) "content-type" =
        header? headers "content-type" := by
    induction given generalizing headers with
    | nil => rfl
    | cons header rest ih =>
      obtain ⟨name, value⟩ := header
      have other := beq_eq_false_iff_ne.mp (unnamed _ List.mem_cons_self)
      rw [List.foldl_cons, ih fun h among => unnamed h (List.mem_cons_of_mem _ among)]
      exact header?_putHeader name value "content-type" headers (by rw [same]; exact other)
  exact (kept _).trans (usual _)

theorem saysJson_callHeaders (module : Option Text) (given : Http.Headers)
    (unnamed : ∀ header ∈ given, Http.namesContentType header = false) :
    saysJson (callHeaders module given) = true := by
  rw [Service.saysJson, header?_callHeaders module given unnamed]
  decide +kernel

/-- The channel to a service carries the headers that the service is given with. -/
theorem headers_of_bound {api : ExternalApi} {module : Option Text} {channel : Channel}
    (bound : Channel.of? (some api) module = some channel) :
    channel.headers = callHeaders module api.headers := by
  unfold Channel.of? at bound
  dsimp only at bound
  split at bound
  · cases bound
  · rw [← Option.some.inj bound]

/-- A channel that is bound to the storage of a service by a caller who names no kind of body. -/
structure Channel.LeadsTo (channel : Channel) (apiRoot : Text) : Prop where
  bound : ∃ api module, Channel.of? (some api) module = some channel ∧
    ∀ header ∈ api.headers, Http.namesContentType header = false
  path : endpoint? apiRoot (Service.Incoming.ofUrl "POST" (channel.baseUrl ++ storagePath) []
  []).path = some .storage

theorem Channel.LeadsTo.saysJson {channel : Channel} {apiRoot : Text}
    (leads : channel.LeadsTo apiRoot) :
    saysJson channel.headers = true := by
  obtain ⟨api, module, bound, unnamed⟩ := leads.bound
  rw [headers_of_bound bound]
  exact saysJson_callHeaders module api.headers unnamed

/-- The request that a channel posts to the storage. -/
def Channel.storageRequest (channel : Channel) (body : Text) : Http.Request :=
  ⟨.text "POST", .text (channel.baseUrl ++ storagePath), Http.headerEntries channel.headers,
    .text body⟩

/-- The request as the service gets it. -/
def Channel.incoming (channel : Channel) (body : Text) : Service.Incoming :=
  .ofUrl "POST" (channel.baseUrl ++ storagePath) channel.headers (Utf8.encode body)

theorem upper_post : Text.upper "POST" = "POST" := by decide

/-- Headers are read as they were given. -/
theorem plain_headerEntries (headers : Http.Headers) :
    (Http.headerEntries headers).map (fun header => (header.1.plain, header.2.plain)) =
      headers := by
  rw [Http.headerEntries, List.map_map]
  exact List.map_id headers

theorem incomingOf_post (channel : Channel) (path body : Text) (scalar : body.isScalar = true) :
    Service.incomingOf ⟨.text "POST", .text (channel.baseUrl ++ path),
        Http.headerEntries channel.headers, .text body⟩ =
      .ok (.ofUrl "POST" (channel.baseUrl ++ path) channel.headers (Utf8.encode body)) := by
  simp only [Service.incomingOf, Text.encodeStrict_of_scalar body scalar]
  exact congrArg (fun given =>
    Except.ok (Service.Incoming.ofUrl "POST" (channel.baseUrl ++ path) given (Utf8.encode body)))
    (plain_headerEntries channel.headers)

theorem afterScripts_append {σ : Type} (service : Service σ) (requests : List Http.Request)
    (request : Http.Request) (s : ServiceState σ) :
    service.afterScripts (requests ++ [request]) s =
    (service.answerScript request (service.afterScripts requests s)).2 := by
  rw [Service.afterScripts, List.foldl_append]
  rfl

/-- A post is asked for as it stands. -/
theorem request_post (url body : Datum) (headers : List (Datum × Datum)) :
    Http.request (.text "POST") url headers body = Http.ask ⟨.text "POST", url, headers, body⟩ :=
  Http.request_of_verb (by rw [Http.verbOf, upper_post]) url headers body

/-- What a post of members that can be written comes to is what the service answers after the
requests before it. -/
theorem post_answered {σ : Type} (channel : Channel) (path : Text) {members : List (Text × Datum)}
    {body : Text} (made : Http.jsonBody (Datum.ofMembers members) = .ok body) (service : Service σ)
    (start : ServiceState σ) (exchange : Http.Exchange)
    (client : exchange.client = service.loopback start) :
    let request : Http.Request := ⟨.text "POST", .text (channel.baseUrl ++ path),
      Http.headerEntries channel.headers, .text body⟩
    let answered := service.answer none
      (.ofUrl "POST" (channel.baseUrl ++ path) channel.headers (Utf8.encode body))
      (service.afterScripts exchange.requests start)
    channel.post path members exchange =
        .ok answered.1.response { exchange with sent := request :: exchange.sent } ∧
      service.afterScripts (exchange.requests ++ [request]) start = answered.2 := by
  intro request answered
  have scalar : body.isScalar = true := by
    obtain ⟨-, -, -, rfl⟩ := Http.jsonBody_eq_ok_iff.mp made
    exact Text.isScalar_of_printable (Json.printable_renderAt 0 _)
  have script : service.answerScript request (service.afterScripts exchange.requests start) =
      (.response answered.1.response, answered.2) := by
    rw [Service.answerScript, incomingOf_post channel path body scalar]
  constructor
  · have answer : exchange.client.answer exchange.requests request =
        .response answered.1.response := by
      rw [client, Service.loopback]
      exact congrArg Prod.fst script
    rw [Channel.post, made, Http.ofExcept_ok_bind, request_post]
    simp only [Http.ask, Http.Exchange.send]
    rw [answer]
  · rw [afterScripts_append, script]

variable (operation key value) in
/-- What a call comes to is what the service answers after the requests before it. -/
theorem post_storage (channel : Channel) (service : Service MemoryStore)
    (start : ServiceState MemoryStore) (sendable : Sendable options) (exchange : Http.Exchange)
    (client : exchange.client = service.loopback start) :
    let request := channel.storageRequest (callBody operation key value options)
    let answered := service.answer none (channel.incoming (callBody operation key value options))
      (service.afterScripts exchange.requests start)
    channel.post storagePath (callMembers operation key value options) exchange =
        .ok answered.1.response { exchange with sent := request :: exchange.sent } ∧
      service.afterScripts (exchange.requests ++ [request]) start = answered.2 :=
  post_answered channel storagePath (jsonBody_callMembers operation key value sendable) service
    start exchange client

end PhaseScript.Rpc
