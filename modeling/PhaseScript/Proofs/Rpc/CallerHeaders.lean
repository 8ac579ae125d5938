import PhaseScript.Proofs.Http.Header
import PhaseScript.Proofs.Rpc.Posting
/-
The headers of what a script's calls post. Those of the caller are put after the usual ones: a
header of the caller takes the place of a usual one that is spelled the very same, while under a
name that the caller spells in another case both are carried.
-/
set_option autoImplicit false

namespace PhaseScript.Rpc

open Http (Headers Distinct headerOf? sameName withHeaders)

/-- The headers that every request has unless the caller says otherwise. A module is named in them
if it has a name. -/
def usualHeaders (module : Option Text) : Headers :=
  let tag : Headers := match module with
    | some name => if name.isEmpty then [] else [("X-Wasm-Module", name)]
    | none => []
  let types : Headers := [("Accept", "application/json"), ("Content-Type", "application/json")]
  types ++ tag

theorem callHeaders_eq (module : Option Text) (given : Headers) :
    callHeaders module given = withHeaders (usualHeaders module) given := rfl

theorem usualHeaders_distinct (module : Option Text) : Distinct (usualHeaders module) := by
  have types : Distinct (usualHeaders none) := by
    unfold Distinct
    decide +kernel
  cases module with
  | none => exact types
  | some name =>
    cases name with
    | nil => exact types
    | cons p rest =>
      have names : (usualHeaders (some (p :: rest))).map (fun header => header.1.asciiLower) =
          ["accept", "content-type", "x-wasm-module"].map Text.ofString := by
        simp only [usualHeaders, List.isEmpty_cons, Bool.false_eq_true, if_false, List.map_append,
          List.map_cons, List.map_nil]
        decide +kernel
      rw [Distinct, names]
      decide +kernel

/-- Whoever gets a request reads the headers of the channel. -/
theorem valuesOf_request (channel : Channel) (path body name : Text) :
    (channel.request path body).valuesOf name = Http.valuesOf channel.headers name := by
  rw [Http.Request.valuesOf, Channel.request, plain_headerEntries]

/-- Every request of a channel carries under each name the caller's value if there is one, and else
the usual one. -/
def Channel.HeedsCaller (channel : Channel) (usual given : Headers) : Prop :=
  ∀ (call : ServiceCall) (before : Http.Exchange) (request : Http.Request),
    call.Posts channel before request → ∀ name,
      request.valuesOf name = Http.preferred (headerOf? usual name) (headerOf? given name)

/-- A caller is heeded exactly if every usual header that is given anew is spelled as usual. For a
name in another spelling a request carries two values, the usual one before the caller's. -/
theorem heedsCaller_iff (api : ExternalApi) (module : Option Text) (channel : Channel)
    (bound : Channel.of? (some api) module = some channel) (distinct : Distinct api.headers) :
    (channel.HeedsCaller (usualHeaders module) api.headers ↔
      ∀ usual ∈ usualHeaders module, ∀ given ∈ api.headers,
        sameName given.1 usual.1 = true → given.1 = usual.1) ∧
    ∀ (call : ServiceCall) (before : Http.Exchange),
      Http.exchangeAfter (call.make channel) before = before ∨
      ∃ request, call.Posts channel before request ∧ ∀ name, request.valuesOf name =
        Http.carried (headerOf? (usualHeaders module) name) (headerOf? api.headers name) := by
  have carried (path body name : Text) : (channel.request path body).valuesOf name =
      Http.carried (headerOf? (usualHeaders module) name) (headerOf? api.headers name) := by
    rw [valuesOf_request, headers_of_bound bound, callHeaders_eq,
      Http.valuesOf_withHeaders (usualHeaders_distinct module) distinct]
  constructor
  · rw [← Http.carried_preferred_iff (usualHeaders_distinct module) distinct]
    constructor
    -- Emptying the storage always posts, so what it posts shows what the channel carries.
    · intro heeds name
      rw [← carried storagePath (callBody "clear" none none .none) name]
      exact heeds _ ⟨.unconnected, []⟩ _ (ServiceCall.clear_posts channel ⟨.unconnected, []⟩) name
    · intro same call before request posts name
      obtain ⟨body, rfl⟩ := posts.eq_request
      rw [carried, same]
  · intro call before
    obtain none | ⟨body, one⟩ := call.make_posts channel before
    · exact Or.inl none
    · exact Or.inr ⟨_, one, carried call.path body⟩

/-- A service that is given with a header in small letters. -/
def smallLettersApi : ExternalApi := ⟨"http://x", [("accept", "text/html")]⟩

/-- The channel of a script without a name to that service. -/
def smallLettersChannel : Channel := ⟨"http://x", none, callHeaders none smallLettersApi.headers⟩

/-- The usual value goes along with the caller's. -/
theorem smallLetters_not_heeded :
    Channel.of? (some smallLettersApi) none = some smallLettersChannel ∧
      Distinct smallLettersApi.headers ∧
      ¬ smallLettersChannel.HeedsCaller (usualHeaders none) smallLettersApi.headers ∧
      ∃ request, (ServiceCall.storage .clear []).Posts smallLettersChannel ⟨.unconnected, []⟩
          request ∧
        request.valuesOf "accept" = ["application/json", "text/html"] := by
  have bound : Channel.of? (some smallLettersApi) none = some smallLettersChannel := by
    decide +kernel
  have distinct : Distinct smallLettersApi.headers := by
    unfold Distinct
    decide +kernel
  obtain ⟨heeds, carries⟩ := heedsCaller_iff smallLettersApi none smallLettersChannel bound distinct
  refine ⟨bound, distinct, fun heeded => ?_, ?_⟩
  · have alike := heeds.mp heeded ("Accept", "application/json") (by decide +kernel)
      ("accept", "text/html") (by decide +kernel) (by decide +kernel)
    revert alike
    decide +kernel
  · have posts := ServiceCall.clear_posts smallLettersChannel ⟨.unconnected, []⟩
    obtain none | ⟨request, posts, values⟩ := carries (.storage .clear []) ⟨.unconnected, []⟩
    · rw [ServiceCall.Posts, none] at posts
      exact absurd (congrArg Http.Exchange.sent posts).symm (List.cons_ne_self _ _)
    · refine ⟨request, posts, ?_⟩
      rw [values]
      decide +kernel

end PhaseScript.Rpc
