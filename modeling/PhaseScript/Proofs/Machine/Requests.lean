import PhaseScript.Proofs.Machine.Binding
import PhaseScript.Proofs.Rpc.Posting
/-
What a script sends. A fetch sends the one request that its options ask for and settles as the
client answers it; where the options ask for no request it sends none and is rejected. A call of the
console or the storage posts one request, unless what it is given cannot be written.
-/
set_option autoImplicit false

namespace PhaseScript.Machine

open Http (Asked)

namespace Run

variable {α β : Type} {before : World}

/-- The state in which a step ends, whatever comes of it. -/
def stateAfter (step : Run α) (before : World) : World :=
  match step before with
  | .ok _ after | .error _ after => after

theorem stateAfter_of_ok {step : Run α} {a : α} {after : World} (ran : step before = .ok a after) :
    stateAfter step before = after := by
  rw [stateAfter, ran]

theorem stateAfter_congr {step step' : Run α} (same : step before = step' before) :
    stateAfter step before = stateAfter step' before := by
  rw [stateAfter, same, stateAfter]

/-- What only adds cells behind a step sends nothing more. -/
theorem extends_stateAfter_bind {step : Run α} {next : α → Run β}
    (adds : ∀ a, OnlyAdds (next a)) (before : World) :
    Extends (stateAfter step before) (stateAfter (step >>= next) before) := by
  cases ran : step before with
  | ok a between =>
    obtain ⟨b, after, ran', extends_⟩ := adds a between
    rw [stateAfter_of_ok ran, stateAfter_of_ok ((bind_of_ok ran).trans ran')]
    exact extends_
  | error trouble between =>
    simp only [stateAfter, bind, EStateM.bind, ran]
    exact .of_same rfl rfl rfl

theorem onlyAdds_exceptionOf (raised : Raised) : OnlyAdds (exceptionOf raised) :=
  (onlyAdds_ofData _).bind fun _ =>
    (OnlyAdds.mapM (fun _ => (onlyAdds_ofDatum _).bind fun _ => .pure _) _).bind fun _ =>
      onlyAdds_alloc _

section Sending

variable {step : Http.Sending α} {exchange : Http.Exchange} {raised : Raised}

theorem sending_of_ok {a : α} (sent : step before.exchange = .ok a exchange) :
    sending step before = .ok a { before with exchange } := by
  simp only [sending, bind, EStateM.bind, sent]
  rfl

theorem sending_of_error (sent : step before.exchange = .error raised exchange) :
    sending step before = (exceptionOf raised >>= raiseValue) { before with exchange } := by
  simp only [sending, bind, EStateM.bind, sent]

/-- A step that sends requests sends those, whatever the script is told. -/
theorem extends_stateAfter_sending (step : Http.Sending α) (before : World) :
    Extends { before with exchange := Http.exchangeAfter step before.exchange }
      (stateAfter (sending step) before) := by
  cases sent : step before.exchange with
  | ok a exchange =>
    rw [stateAfter_of_ok (sending_of_ok sent), Http.exchangeAfter, sent]
    exact .of_same rfl rfl rfl
  | error raised exchange =>
    obtain ⟨error, after, made, extends_⟩ := onlyAdds_exceptionOf raised { before with exchange }
    rw [stateAfter, sending_of_error sent, bind_of_ok made, Http.exchangeAfter, sent]
    exact extends_

end Sending

/-- A fetch reads the address and the options, and then settles as the requests for them are
answered. -/
theorem callHost_fetch (m : Interp) {url options : Value} {w : World} {shown : Datum}
    (reads : optionsDatum options w = .ok shown w) :
    callHost m .fetch [.one url, .one options] w =
      (do
        match ← sending (Http.fetch (url.toDatum w.heap showDepth []) shown) with
        | .ok source => newPromise false (← newResponse source)
        | .error raised => newPromise true (← exceptionOf raised)) w := by
  have address : snapshot url w = .ok (url.toDatum w.heap showDepth []) w := rfl
  exact (bind_of_ok address).trans (bind_of_ok reads)

end Run

/-- The state in which a request has been sent, if there is one. -/
def World.asking (w : World) (request? : Option Http.Request) : World :=
  { w with exchange := w.exchange.behind request? }

namespace Run

/-- How a fetch ends once the client has answered its request. With a response, whatever its status,
it is resolved with it, the headers in a dict of its own. Where the client raises an error, it is
rejected with that; what a client raises that is no error goes through. -/
inductive Fetched (w : World) : Http.Answer → EStateM.Result Trouble World Value → Prop
  | resolved {source : Http.Response} :
      Fetched w (.response source)
        (.ok (.promise w.promises false (.response source (.ref w.heap.size)))
          { w with
            heap := w.heap.push
              (.dict (source.headers.map fun h => (.text h.1, .text h.2)).toArray false)
            promises := w.promises + 1 })
  | rejected {kind : ExceptionKind} {args : List Datum} {error : Value} {after : World}
      (isError : kind.is .exception = true)
      (made : exceptionOf ⟨kind, args, []⟩ w = .ok error after) :
      Fetched w (.raised kind args)
        (.ok (.promise after.promises true error) { after with promises := after.promises + 1 })
  | through {kind : ExceptionKind} {args : List Datum} {error : Value} {after : World}
      (noError : kind.is .exception = false)
      (made : exceptionOf ⟨kind, args, []⟩ w = .ok error after) :
      Fetched w (.raised kind args) (.error (.raised error) after)

variable {url options : Value} {w : World} {shown : Datum} {asked : Asked}

theorem exchange_of_exceptionOf {raised : Raised} {error : Value} {after : World}
    (made : exceptionOf raised w = .ok error after) : after.exchange = w.exchange := by
  obtain ⟨_, _, made', extends_⟩ := onlyAdds_exceptionOf raised w
  cases made.symm.trans made'
  exact extends_.exchange

/-- Once the client has answered, a fetch sends nothing more. -/
theorem Fetched.exchange_eq {step : Run Value} {before : World} {answer : Http.Answer}
    (fetched : Fetched w answer (step before)) :
    (stateAfter step before).exchange = w.exchange := by
  rw [stateAfter]
  generalize step before = result at fetched
  cases fetched with
  | resolved => rfl
  | rejected _ made => exact (exchange_of_exceptionOf made :)
  | through _ made => exact exchange_of_exceptionOf made

/-- Where a request has what the options ask for, a fetch sends it and settles by the answer. -/
theorem fetch_of_makes (m : Interp) (reads : optionsDatum options w = .ok shown w)
    (given : asked.Given shown) {request : Http.Request}
    (makes : asked.Makes (url.toDatum w.heap showDepth []) request) :
    Fetched (w.asking (some request)) (w.exchange.client.answer w.exchange.requests request)
      (callHost m .fetch [.one url, .one options] w) := by
  have sent := Http.attempt_ask request w.exchange
  rw [callHost_fetch m reads, makes.fetch_eq given]
  cases answer : w.exchange.client.answer w.exchange.requests request with
  | response source =>
    rw [answer] at sent
    rw [bind_of_ok (sending_of_ok sent)]
    exact .resolved
  | raised kind args =>
    rw [answer] at sent
    dsimp only at sent
    obtain ⟨error, after, made, -⟩ :=
      onlyAdds_exceptionOf ⟨kind, args, []⟩ (w.asking (some request))
    cases isError : kind.is .exception with
    | true =>
      rw [if_pos isError] at sent
      rw [bind_of_ok (sending_of_ok sent)]
      change Fetched _ _ ((exceptionOf ⟨kind, args, []⟩ >>= newPromise true)
        (w.asking (some request)))
      rw [bind_of_ok made]
      exact .rejected isError made
    | false =>
      rw [if_neg (Bool.eq_false_iff.mp isError)] at sent
      have through := (sending_of_error sent).trans (bind_of_ok made)
      simp only [bind, EStateM.bind, through]
      exact .through isError made

/-- Where no request has what the options ask for, a fetch sends nothing and is rejected. -/
theorem fetch_of_none (m : Interp) (reads : optionsDatum options w = .ok shown w)
    (given : asked.Given shown)
    (none : ¬ ∃ request, asked.Makes (url.toDatum w.heap showDepth []) request) :
    ∃ raised error after, asked.Refuses raised ∧ exceptionOf raised w = .ok error after ∧
      callHost m .fetch [.one url, .one options] w =
        .ok (.promise after.promises true error) { after with promises := after.promises + 1 } := by
  obtain ⟨raised, refuses, refused⟩ := Asked.fetch_eq_of_none given none
  obtain ⟨error, after, made, -⟩ := onlyAdds_exceptionOf raised w
  refine ⟨raised, error, after, refuses, made, ?_⟩
  rw [callHost_fetch m reads, refused]
  exact (bind_of_ok (sending_of_ok rfl)).trans (bind_of_ok made)

end Run

/-- A state in which the options of a fetch have one member, and a client answers anything so.
Beside them there is a list of one text, in which the halves of a surrogate pair stand side by
side. -/
def World.fetching (name : Text) (option : Value) (answer : Http.Answer) : World :=
  { (default : World) with
    heap := #[.dict #[(.text name, option)] false,
      .list #[.text [Point.ofNat 0xD83D, Point.ofNat 0xDE00]]]
    exchange := ⟨⟨fun _ _ => answer⟩, []⟩ }

/-- The request in which that list is posted. -/
def postedHalves : Http.Request where
  verb := .text "POST"
  url := .text "u"
  headers := [(.text "Content-Type", .text "application/json")]
  body := .text "[\"\\ud83d\\ude00\"]"

namespace Run

end Run

open Rpc (ServiceCall)

/-- The call of the service that a function of the console or the storage makes of what it is given,
as the values are at that time. -/
def serviceCall? (heap : Array Cell) (f : Builtin) (bound : List (Bound Value)) :
    Option ServiceCall :=
  let shown (v : Value) : Datum := v.toDatum heap Run.showDepth []
  match f with
  | .console none =>
    some (.console (shown (Run.boundOne bound 0)) ((Run.boundRow bound 1).map shown))
  | .console (some name) =>
    some (.console (.text (if name.is "log" then "info" else name))
      ((Run.boundRow bound 0).map shown))
  | .storage call =>
    some (.storage call (((List.range bound.length).map (Run.boundOne bound)).map shown))
  | _ => none

/-- The channel that calls go through. -/
def World.theChannel (w : World) : Rpc.Channel := w.channel.getD default

namespace Run

theorem mapM_snapshot (vs : List Value) (w : World) :
    vs.mapM snapshot w = .ok (vs.map fun v => v.toDatum w.heap showDepth []) w := by
  induction vs with
  | nil => rfl
  | cons v rest ih =>
    rw [List.mapM_cons]
    exact (bind_of_ok rfl).trans (bind_of_ok ih)

/-- A step of the channel sends what it sends, and what only adds cells behind it sends nothing
more. -/
theorem extends_calling {α : Type} (step : Rpc.Channel → Http.Sending α) {given : α → Run Value}
    (adds : ∀ a, OnlyAdds (given a)) (w : World) :
    Extends { w with exchange := Http.exchangeAfter (step w.theChannel) w.exchange }
      (stateAfter (calling step >>= given) w) :=
  (extends_stateAfter_sending (step w.theChannel) w).trans (extends_stateAfter_bind adds w)

/-- A function of the console logs what it is given, and gives nothing. -/
theorem callHost_console (m : Interp) {f : Builtin} {bound : List (Bound Value)} {w : World}
    {level : Datum} {messages : List Datum}
    (logs : serviceCall? w.heap f bound = some (.console level messages)) :
    callHost m f bound w = (do
      calling fun channel => channel.log level messages
      return Value.none : Run Value) w := by
  unfold serviceCall? at logs
  split at logs
  · cases logs
    exact (bind_of_ok rfl).trans (bind_of_ok (mapM_snapshot _ _))
  · cases logs
    exact (bind_of_ok rfl).trans (bind_of_ok (mapM_snapshot _ _))
  · cases logs
  · cases logs

/-- A function of the console or the storage sends the request of its call, and nothing else. -/
theorem extends_callHost (m : Interp) {f : Builtin} {bound : List (Bound Value)} {w : World}
    {call : ServiceCall} (calls : serviceCall? w.heap f bound = some call) :
    Extends (w.asking (call.request? w.theChannel)) (stateAfter (callHost m f bound) w) := by
  cases call with
  | console level messages =>
    rw [stateAfter_congr (callHost_console m calls), World.asking,
      ← ServiceCall.exchangeAfter_make, ServiceCall.make]
    exact extends_calling (fun channel => channel.log level messages) (fun _ => .pure Value.none) w
  | storage called args =>
    unfold serviceCall? at calls
    split at calls <;> cases calls
    have ran : callHost m (.storage called) bound w = _ := Rpc.callStorage_machine called _ w
    rw [stateAfter_congr ran, World.asking, ← ServiceCall.exchangeAfter_make, ServiceCall.make,
      Http.exchangeAfter_bind _ _ (fun _ => Http.quiet_pure _)]
    exact extends_calling (fun channel => channel.callStorage called _) onlyAdds_ofDatum w

end Run

/-- A script makes calls of the service, one after another. Whatever comes of a call, the script
goes on, and what it does until the next call sends nothing. -/
inductive Calls (m : Interp) : World → List ServiceCall → World → Prop
  | none (w : World) : Calls m w [] w
  | call {f : Builtin} {bound : List (Bound Value)} {w next after : World} {call : ServiceCall}
      {calls : List ServiceCall} (isCall : serviceCall? w.heap f bound = some call)
      (exchange : next.exchange = (Run.stateAfter (Run.callHost m f bound) w).exchange)
      (channel : next.channel = (Run.stateAfter (Run.callHost m f bound) w).channel)
      (goesOn : Calls m next calls after) : Calls m w (call :: calls) after

/-- Calls send their requests in their order, and nothing else. -/
theorem Calls.requests_eq {m : Interp} {w after : World} {calls : List ServiceCall}
    (made : Calls m w calls after) : after.exchange.requests =
      w.exchange.requests ++ calls.filterMap (·.request? w.theChannel) := by
  induction made with
  | none w => rw [List.filterMap_nil, List.append_nil]
  | @call f bound w next after call calls isCall exchange channel goesOn ih =>
    have extends_ := Run.extends_callHost m isCall
    have same : next.theChannel = w.theChannel := by
      rw [World.theChannel, channel, extends_.channel]
      rfl
    rw [ih, same, exchange, extends_.exchange, World.asking, Http.Exchange.requests_behind,
      List.filterMap_cons, List.append_assoc]
    cases call.request? w.theChannel <;> rfl

/-- A script that is prepared for a service speaks to its address, on behalf of the module. -/
theorem Surroundings.prepare_bound (s : Surroundings) {api : ExternalApi} (w : World)
    (isBound : s.externalApi = some api) (isNamed : api.url ≠ []) :
    ∃ ready, Run.prepare s w = .ok () ready ∧ ready.exchange = w.exchange ∧
      ready.theChannel = ⟨Text.dropEndWhile (·.is '/') api.url, s.module,
        Rpc.callHeaders s.module api.headers⟩ := by
  obtain ⟨ready, prepared, channel, exchange⟩ := s.prepare_sends_nothing w
  have named : api.url.isEmpty = false := by simpa using isNamed
  refine ⟨ready, prepared, exchange, ?_⟩
  rw [World.theChannel, channel, isBound, Rpc.Channel.of?, named]
  rfl

/-- To prepare a script for a service sends nothing. Then each call of the console or the storage
posts one request, in the order of the calls, whatever is answered and whether or not calls raise:
it goes to the address of the service, and is read as the JSON of the call, but for halves of
surrogate pairs that have come to stand side by side. Only what has no JSON text is not posted. -/
theorem calls_post_once (s : Surroundings) (api : ExternalApi) (w : World)
    (isBound : s.externalApi = some api) (isNamed : api.url ≠ []) :
    ∃ ready, Run.prepare s w = .ok () ready ∧ ready.exchange = w.exchange ∧
      ready.theChannel.baseUrl = Text.dropEndWhile (·.is '/') api.url ∧
      ready.theChannel.module = s.module ∧
      (∀ m calls after, Calls m ready calls after → after.exchange.requests =
        w.exchange.requests ++ calls.filterMap (·.request? ready.theChannel)) ∧
      ∀ call : ServiceCall,
        (call.request? ready.theChannel = none ↔ call.Refused ready.theChannel) ∧
        ∀ request, call.request? ready.theChannel = some request →
          call.Posted ready.theChannel request := by
  obtain ⟨ready, prepared, exchange, given⟩ := s.prepare_bound w isBound isNamed
  refine ⟨ready, prepared, exchange, by rw [given], by rw [given], fun m calls after made => ?_,
    fun call => ⟨ServiceCall.request_eq_none_iff, fun _ => ServiceCall.posted_of_request?⟩⟩
  rw [made.requests_eq, exchange]

/-- A script that is bound to a service. -/
def boundSurroundings : Surroundings :=
  { (default : Surroundings) with externalApi := some ⟨"http://x/", []⟩, module := some "m" }

/-- Two calls of a bound script, and what they post. -/
theorem calls_post_once_pair :
    let calls : List ServiceCall := [.storage .get [.text "k"], .storage .clear []]
    ∃ ready after, Run.prepare boundSurroundings default = .ok () ready ∧
      Calls (Run.interp 0) ready calls after ∧
      after.exchange.requests.map (·.url) =
        List.replicate 2 (.text "http://x/apis/v1/storage/_rpc") ∧
      after.exchange.requests.map (·.body) = ([
        "\x7b\"operation\": \"get\", \"key\": \"k\", \"value\": null, \"opts\": null\x7d",
        "\x7b\"operation\": \"clear\", \"key\": null, \"value\": null, \"opts\": null\x7d"]
        : List Text).map .text := by
  intro calls
  obtain ⟨ready, prepared, -, baseUrl, -, posts, -⟩ :=
    calls_post_once boundSurroundings _ default rfl (by decide)
  have gets {w : World} : serviceCall? w.heap (.storage .get) [.one (.text "k")] =
      some (.storage .get [.text "k"]) := rfl
  have clears {w : World} : serviceCall? w.heap (.storage .clear) [] =
      some (.storage .clear []) := rfl
  have made : Calls (Run.interp 0) ready calls _ :=
    .call gets rfl rfl (.call clears rfl rfl (.none _))
  have base : ready.theChannel.baseUrl = "http://x" := baseUrl.trans (by decide)
  have sent := posts _ _ _ made
  generalize ready.theChannel = channel at base sent
  obtain ⟨url, module, headers⟩ := channel
  cases base
  refine ⟨ready, _, prepared, made, ?_, ?_⟩ <;> rw [sent] <;> rfl

/-- So many lists within each other. -/
def nestedLists : Nat → Datum
  | 0 => .list []
  | depth + 1 => .list [nestedLists depth]

/-- Halves of a surrogate pair that stand side by side come back as one; and what is too deep to be
made JSON-safe is not posted, though its JSON-safe form could be written. -/
theorem posted_key_joined :
    (∃ request t,
      (ServiceCall.storage .get [.text [Point.ofNat 0xD83D, Point.ofNat 0xDE00]]).request? default =
        some request ∧
      request.body = .text t ∧
      Json.read t ≠ .ok (ServiceCall.storageJson "get"
        (.string [Point.ofNat 0xD83D, Point.ofNat 0xDE00]) .null .null)) ∧
    ∃ payload,
      (ServiceCall.console (.text "info") [nestedLists 500]).request? default = none ∧
      (ServiceCall.console (.text "info") [nestedLists 500]).payload? none = some payload ∧
      Json.writeFault? false payload = none := by
  refine ⟨⟨_, _, rfl, rfl, ?_⟩, _, by decide +kernel, rfl, by decide +kernel⟩
  have joined : Json.read ("\x7b\"operation\": \"get\", \"key\": \"\\ud83d\\ude00\", " ++
      "\"value\": null, \"opts\": null\x7d" : Text) =
        .ok (ServiceCall.storageJson "get" (.string [Point.ofNat 0x1F600]) .null .null) :=
    Json.read_of_readsAs _ _ (by decide +kernel)
  refine joined.trans_ne ?_
  simp [ServiceCall.storageJson]

end PhaseScript.Machine
