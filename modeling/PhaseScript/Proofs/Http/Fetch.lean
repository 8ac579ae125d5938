import PhaseScript.Http.Fetch
import PhaseScript.Proofs.Datum.Safe
import PhaseScript.Proofs.Http.Header
/-
What a fetch sends and gives. The options say in three members what to ask: a method, headers and a
body. Where there is a request that has what they say, it is the one that is sent, once; where there
is none, since the method has no capitals or the body no JSON text, nothing is sent, and the fetch
gives an error. Only what a client raises without its being an error goes through.
-/
set_option autoImplicit false

namespace PhaseScript

namespace Http

/-- A body has a JSON text exactly where it is not too deep, and no integer is too long. -/
theorem jsonBody_eq_ok_iff {d : Datum} {t : Text} : jsonBody d = .ok t ↔
    d.isTooDeep = false ∧ d.hasHugeInt = false ∧ Json.writeFault? false d.jsonSafe = none ∧
      t = Json.render .spaced d.jsonSafe := by
  rw [jsonBody, Datum.wireText, Json.write]
  cases d.isTooDeep with
  | true => simp
  | false =>
    cases d.hasHugeInt with
    | true => simp
    | false =>
      cases Json.writeFault? false d.jsonSafe with
      | some fault => simp
      | none => simp [eq_comm]

/-- A body that has no JSON text is refused with an error. -/
theorem kind_of_jsonBody {d : Datum} {raised : Raised} (refused : jsonBody d = .error raised) :
    raised.kind.is .exception = true := by
  rw [jsonBody] at refused
  split at refused
  · cases refused
    rfl
  · split at refused <;> cases refused
    rfl

theorem nesting_of_shallow {d : Datum} (shallow : d.isTooDeep = false) :
    Json.nesting d.jsonSafe ≤ Json.maxDepth := by
  rw [Datum.isTooDeep, Bool.or_eq_false_iff, decide_eq_false_iff_not] at shallow
  have usual := shallow.2
  have deep := Datum.nesting_jsonSafe_le d
  rw [Datum.depthLimit] at usual
  rw [Json.maxDepth]
  omega

/-- The JSON text of a body is read as its JSON-safe form, but for halves of surrogate pairs that
have come to stand side by side. -/
theorem read_jsonBody {d : Datum} {t : Text} (made : jsonBody d = .ok t) :
    Json.read t = .ok (Json.reread true d.jsonSafe) ∧
      (Json.Whole d.jsonSafe → Json.read t = .ok d.jsonSafe) := by
  obtain ⟨shallow, -, written, rfl⟩ := jsonBody_eq_ok_iff.mp made
  have back := Json.read_render .spaced Json.Style.spaced_lawful d.jsonSafe
    (Datum.legible_jsonSafe written) (nesting_of_shallow shallow)
  refine ⟨back, fun whole => back.trans ?_⟩
  exact congrArg Except.ok
    (Json.reread_of_whole true d.jsonSafe (Datum.limited_jsonSafe d written) whole)

/-- The exchange with a request behind those before it, if there is one. -/
def Exchange.behind (before : Exchange) (request? : Option Request) : Exchange :=
  { before with sent := request?.toList ++ before.sent }

@[simp] theorem Exchange.behind_none (before : Exchange) : before.behind none = before := rfl

@[simp] theorem Exchange.behind_some (before : Exchange) (request : Request) :
    before.behind (some request) = { before with sent := request :: before.sent } := rfl

@[simp] theorem Exchange.requests_behind (before : Exchange) (request? : Option Request) :
    (before.behind request?).requests = before.requests ++ request?.toList := by
  cases request? with
  | none => simp
  | some request => simp [Exchange.requests]

/-- One request, and what the client makes of it. -/
def ask (request : Request) : Sending Response := fun exchange =>
  match exchange.send request with
  | (.response response, exchange) => .ok response exchange
  | (.raised kind args, exchange) => .error ⟨kind, args, []⟩ exchange

theorem request_of_verb {method verb : Datum} (isVerb : verbOf method = .ok verb) (url : Datum)
    (headers : List (Datum × Datum)) (body : Datum) :
    request method url headers body = ask ⟨verb, url, headers, body⟩ := by
  rw [request, isVerb]
  rfl

theorem request_of_refused {method : Datum} {raised : Raised}
    (refused : verbOf method = .error raised)
    (url : Datum) (headers : List (Datum × Datum)) (body : Datum) :
    request method url headers body = throw raised := by
  rw [request, refused]

/-- A method without capitals is refused with an error. -/
theorem kind_of_verbOf {method : Datum} {raised : Raised}
    (refused : verbOf method = .error raised) :
    raised.kind.is .exception = true := by
  unfold verbOf at refused
  split at refused <;> cases refused
  rfl

theorem ofExcept_ok_bind {α β : Type} (a : α) (next : α → Sending β) :
    (MonadExcept.ofExcept (.ok a : Except Raised α) >>= next) = next a := rfl

theorem ofExcept_error_bind {α β : Type} (raised : Raised) (next : α → Sending β) :
    (MonadExcept.ofExcept (.error raised : Except Raised α) >>= next) = throw raised := rfl

/-- What is asked comes to what the client makes of it; an error is given back. -/
theorem attempt_ask (request : Request) (exchange : Exchange) :
    attempt (ask request) exchange =
      match exchange.client.answer exchange.requests request with
      | .response source => .ok (.ok source) (exchange.behind (some request))
      | .raised kind args =>
        if kind.is .exception then .ok (.error ⟨kind, args, []⟩) (exchange.behind (some request))
        else .error ⟨kind, args, []⟩ (exchange.behind (some request)) := by
  simp only [attempt, ask, Exchange.send]
  cases exchange.client.answer exchange.requests request <;> rfl

/-- An error that is raised is given back. -/
theorem attempt_throw {α : Type} {raised : Raised} (isError : raised.kind.is .exception = true) :
    attempt (throw raised : Sending α) = pure (.error raised) := by
  funext exchange
  change (if raised.kind.is .exception then _ else _) = _
  rw [if_pos isError]
  rfl

/-- The method that is usual beside a body. -/
def usualMethod (body : Datum) : Text := if body.isTrue then "POST" else "GET"

/-- What the options of a fetch ask. -/
structure Asked where
  method : Datum
  /-- The headers, each name once. -/
  headers : Headers
  body : Datum

namespace Asked

/-- The options that ask so: none at all, or a dict, in which the headers may be missing or count as
false. -/
inductive Given : Asked → Datum → Prop
  | nothing : Given ⟨.none, [], .none⟩ .none
  | bare {entries : List (Datum × Datum)}
      (none : (Datum.entry entries "headers").isTrue = false) :
      Given ⟨Datum.entry entries "method", [], Datum.entry entries "body"⟩ (.dict entries)
  | headed {entries : List (Datum × Datum)} {headers : Headers}
      (named : Datum.entry entries "headers" = .dict (headerEntries headers))
      (distinct : (headers.map (·.1)).Nodup) :
      Given ⟨Datum.entry entries "method", headers, Datum.entry entries "body"⟩ (.dict entries)

/-- The verb that is asked for: the method in capitals, or the usual one if it counts as false. -/
inductive Verb (asked : Asked) : Datum → Prop
  | usual (unsaid : asked.method.isTrue = false) : Verb asked (.text (usualMethod asked.body))
  | text {name : Text} (said : asked.method = .text name) (some : name ≠ []) :
      Verb asked (.text name.upper)
  | octets {octets : Bytes} (said : asked.method = .bytes octets) (some : octets ≠ []) :
      Verb asked (.bytes (octets.map Bytes.toUpper))

/-- The body that is asked for, and whether it is a JSON text: no body if it counts as false, a text
or octets as they are, and the JSON text of anything else. -/
inductive Content (asked : Asked) : Datum → Bool → Prop
  | nothing (empty : asked.body.isTrue = false) : Content asked .none false
  | text {t : Text} (said : asked.body = .text t) (some : t ≠ []) : Content asked (.text t) false
  | octets {octets : Bytes} (said : asked.body = .bytes octets) (some : octets ≠ []) :
      Content asked (.bytes octets) false
  | json {t : Text} (full : asked.body.isTrue = true) (noText : ∀ t, asked.body ≠ .text t)
      (noOctets : ∀ octets, asked.body ≠ .bytes octets) (made : jsonBody asked.body = .ok t) :
      Content asked (.text t) true

/-- The headers of a request: those that are given, and behind them what the body is, if it is a
JSON text and no given header names the kind of the body in whatever letters. -/
def sentHeaders (asked : Asked) (isJson : Bool) : Headers :=
  if isJson ∧ ∀ header ∈ asked.headers, header.1.lower ≠ contentType then
    asked.headers ++ ([("Content-Type", "application/json")] : Headers)
  else asked.headers

/-- A request that has what is asked for. -/
structure Makes (asked : Asked) (url : Datum) (request : Request) : Prop where
  verb : asked.Verb request.verb
  url : request.url = url
  content : ∃ isJson, asked.Content request.body isJson ∧
    request.headers = headerEntries (asked.sentHeaders isJson)

/-- A method that counts as false, or has capitals. -/
def HasVerb (asked : Asked) : Prop :=
  asked.method.isTrue = false ∨ (∃ name, asked.method = .text name) ∨
    ∃ octets, asked.method = .bytes octets

/-- A body that need not be written as JSON, or can be. -/
def HasContent (asked : Asked) : Prop :=
  asked.body.isTrue = true → (∀ t, asked.body ≠ .text t) →
    (∀ octets, asked.body ≠ .bytes octets) → ∃ t, jsonBody asked.body = .ok t

variable {asked : Asked} {url options : Datum}

theorem verb_iff {verb : Datum} : asked.Verb verb ↔
    verbOf (asked.method.orElse (.text (usualMethod asked.body))) = .ok verb := by
  have usual : (usualMethod asked.body).upper = usualMethod asked.body := by
    unfold usualMethod
    split <;> decide
  constructor
  · intro isVerb
    cases isVerb with
    | usual unsaid => rw [Datum.orElse, unsaid, if_neg Bool.false_ne_true, verbOf, usual]
    | text said some =>
      rw [said, Datum.orElse, Datum.isTrue, if_pos (by simpa using some), verbOf]
    | octets said some =>
      rw [said, Datum.orElse, Datum.isTrue, if_pos (by simpa using some), verbOf]
  · intro isVerb
    rw [Datum.orElse] at isVerb
    split at isVerb
    · next said =>
      cases isMethod : asked.method with
      | text name =>
        rw [isMethod] at isVerb said
        cases isVerb
        exact .text isMethod (by simpa [Datum.isTrue] using said)
      | bytes octets =>
        rw [isMethod] at isVerb said
        cases isVerb
        exact .octets isMethod (by simpa [Datum.isTrue] using said)
      | _ =>
        rw [isMethod] at isVerb
        cases isVerb
    · next unsaid =>
      rw [verbOf, usual] at isVerb
      cases isVerb
      exact .usual (Bool.eq_false_iff.mpr unsaid)

/-- The body as it is sent, and whether it is a JSON text. -/
def sentBody (body : Datum) : Except Raised (Datum × Bool) :=
  if body.isTrue then encodedBody body else .ok (.none, false)

theorem content_iff {body : Datum} {isJson : Bool} :
    asked.Content body isJson ↔ sentBody asked.body = .ok (body, isJson) := by
  rw [sentBody]
  constructor
  · intro content
    cases content with
    | nothing empty => rw [empty, if_neg Bool.false_ne_true]
    | text said some => rw [said, Datum.isTrue, if_pos (by simpa using some), encodedBody]
    | octets said some => rw [said, Datum.isTrue, if_pos (by simpa using some), encodedBody]
    | json full noText noOctets made =>
      rw [full, if_pos rfl, encodedBody.eq_3 _ noText noOctets, made]
      rfl
  · intro sent
    split at sent
    · next full =>
      by_cases isText : ∃ t, asked.body = .text t
      · obtain ⟨t, said⟩ := isText
        rw [said] at sent full
        cases sent
        exact .text said (by simpa [Datum.isTrue] using full)
      by_cases isOctets : ∃ octets, asked.body = .bytes octets
      · obtain ⟨octets, said⟩ := isOctets
        rw [said] at sent full
        cases sent
        exact .octets said (by simpa [Datum.isTrue] using full)
      have noText := not_exists.mp isText
      have noOctets := not_exists.mp isOctets
      rw [encodedBody.eq_3 _ noText noOctets] at sent
      cases made : jsonBody asked.body with
      | error raised =>
        rw [made] at sent
        cases sent
      | ok t =>
        rw [made] at sent
        cases sent
        exact .json full noText noOctets made
    · next empty =>
      cases sent
      exact .nothing (Bool.eq_false_iff.mpr empty)

/-- Where no given header names the kind of the body, none has the name under which it is put. -/
theorem headersFor_eq (isJson : Bool) :
    headersFor isJson asked.headers = asked.sentHeaders isJson := by
  have unnamed : (asked.headers.any namesContentType = false) ↔
      ∀ header ∈ asked.headers, header.1.lower ≠ contentType := by
    simp only [List.any_eq_false, namesContentType, beq_iff_eq]
  rw [headersFor, sentHeaders]
  by_cases adds : isJson = true ∧ ∀ header ∈ asked.headers, header.1.lower ≠ contentType
  · have new : ("Content-Type" : Text) ∉ asked.headers.map (·.1) := by
      rintro among
      obtain ⟨header, member, same⟩ := List.mem_map.mp among
      exact adds.2 header member (by rw [same]; decide)
    rw [if_pos adds, adds.1, unnamed.mpr adds.2, putHeader_eq_put, Table.put_of_new _ _ _ new]
    rfl
  · rw [if_neg adds, if_neg]
    rw [← unnamed] at adds
    simpa using adds

/-- Entries of distinct texts are read as the headers that they are. -/
theorem headerTexts_entries (headers before : Headers)
    (distinct : ((before ++ headers).map (·.1)).Nodup) :
    headerTexts (headerEntries headers) before = .ok (before ++ headers) := by
  induction headers generalizing before with
  | nil => rw [List.append_nil]; rfl
  | cons header headers ih =>
    obtain ⟨name, value⟩ := header
    have new : name ∉ before.map (·.1) := by
      rw [List.map_append, List.nodup_append] at distinct
      exact fun among => distinct.2.2 name among name (by simp) rfl
    have put : putHeader name value before = before ++ [(name, value)] := by
      rw [putHeader_eq_put, Table.put_of_new _ _ _ new]
    have rest := ih (before ++ [(name, value)]) (by simpa using distinct)
    rw [← put] at rest
    exact rest.trans (by simp [put])

theorem optionEntries_dict (entries : List (Datum × Datum)) :
    optionEntries (.dict entries) = .ok entries := by
  cases entries <;> rfl

/-- Options that ask for something are taken as what they ask. -/
theorem Given.taken (given : asked.Given options) : ∃ entries, optionEntries options = .ok entries ∧
    optionHeaders entries = .ok asked.headers ∧ Datum.entry entries "method" = asked.method ∧
    Datum.entry entries "body" = asked.body := by
  cases given with
  | nothing => exact ⟨[], rfl, rfl, rfl, rfl⟩
  | @bare entries none =>
    refine ⟨entries, optionEntries_dict entries, ?_, rfl, rfl⟩
    rw [optionHeaders, none]
    rfl
  | @headed entries headers named distinct =>
    refine ⟨entries, optionEntries_dict entries, ?_, rfl, rfl⟩
    rw [optionHeaders, named]
    cases headers with
    | nil => rfl
    | cons header headers => exact headerTexts_entries (header :: headers) [] distinct

theorem fetch_eq (given : asked.Given options) (url : Datum) : fetch url options =
    attempt (fetchWith url asked.method asked.headers asked.body) := by
  obtain ⟨entries, isOptions, isHeaders, isMethod, isBody⟩ := given.taken
  simp only [fetch, isOptions, ofExcept_ok_bind, isHeaders, isMethod, isBody]

/-- What is sent goes by the body as it is sent. -/
theorem fetchWith_eq (asked : Asked) (url : Datum) :
    fetchWith url asked.method asked.headers asked.body =
      (MonadExcept.ofExcept (sentBody asked.body) >>= fun content =>
        request (asked.method.orElse (.text (usualMethod asked.body))) url
          (headerEntries (asked.sentHeaders content.2)) content.1) := by
  simp only [← headersFor_eq]
  rw [fetchWith, sentBody, usualMethod]
  split <;> rfl

/-- A request that has what is asked for is what is sent. -/
theorem Makes.fetch_eq {request : Request} (makes : asked.Makes url request)
    (given : asked.Given options) : fetch url options = attempt (ask request) := by
  obtain ⟨verb, rfl, isJson, content, headers⟩ := makes
  rw [Asked.fetch_eq given, fetchWith_eq, content_iff.mp content, ofExcept_ok_bind, ← headers,
    request_of_verb (verb_iff.mp verb)]

/-- There is a request that has what is asked for where there are a verb and a body. -/
theorem makes_iff (asked : Asked) (url : Datum) :
    (∃ request, asked.Makes url request) ↔
      (∃ verb, asked.Verb verb) ∧ ∃ body isJson, asked.Content body isJson := by
  constructor
  · rintro ⟨request, verb, -, isJson, content, -⟩
    exact ⟨⟨_, verb⟩, _, _, content⟩
  · rintro ⟨⟨verb, isVerb⟩, body, isJson, content⟩
    exact ⟨⟨verb, url, headerEntries (asked.sentHeaders isJson), body⟩, isVerb, rfl, isJson,
      content, rfl⟩

theorem exists_verb_iff : (∃ verb, asked.Verb verb) ↔ asked.HasVerb := by
  constructor
  · rintro ⟨verb, unsaid | ⟨said, -⟩ | ⟨said, -⟩⟩
    · exact .inl unsaid
    · exact .inr (.inl ⟨_, said⟩)
    · exact .inr (.inr ⟨_, said⟩)
  · intro has
    cases isTrue : asked.method.isTrue with
    | false => exact ⟨_, .usual isTrue⟩
    | true =>
      obtain unsaid | ⟨name, said⟩ | ⟨octets, said⟩ := has
      · cases unsaid.symm.trans isTrue
      · exact ⟨_, .text said (by simpa [said, Datum.isTrue] using isTrue)⟩
      · exact ⟨_, .octets said (by simpa [said, Datum.isTrue] using isTrue)⟩

theorem exists_content_iff : (∃ body isJson, asked.Content body isJson) ↔ asked.HasContent := by
  constructor
  · rintro ⟨body, isJson, empty | ⟨said, -⟩ | ⟨said, -⟩ | ⟨-, -, -, made⟩⟩ full noText noOctets
    · cases empty.symm.trans full
    · exact absurd said (noText _)
    · exact absurd said (noOctets _)
    · exact ⟨_, made⟩
  · intro has
    cases isTrue : asked.body.isTrue with
    | false => exact ⟨_, _, .nothing isTrue⟩
    | true =>
      by_cases isText : ∃ t, asked.body = .text t
      · obtain ⟨t, said⟩ := isText
        exact ⟨_, _, .text said (by simpa [said, Datum.isTrue] using isTrue)⟩
      by_cases isOctets : ∃ octets, asked.body = .bytes octets
      · obtain ⟨octets, said⟩ := isOctets
        exact ⟨_, _, .octets said (by simpa [said, Datum.isTrue] using isTrue)⟩
      obtain ⟨t, made⟩ := has isTrue (not_exists.mp isText) (not_exists.mp isOctets)
      exact ⟨_, _, .json isTrue (not_exists.mp isText) (not_exists.mp isOctets) made⟩

theorem jsonBody_of_refused {body : Datum} {raised : Raised}
    (refused : sentBody body = .error raised) : jsonBody body = .error raised := by
  unfold sentBody encodedBody at refused
  split at refused
  · split at refused
    · cases refused
    · cases refused
    · cases made : jsonBody body with
      | ok t =>
        rw [made] at refused
        cases refused
      | error raised =>
        rw [made] at refused
        cases refused
        rfl
  · cases refused

theorem verbOf_of_refused {method : Datum} {usual : Text} {raised : Raised}
    (refused : verbOf (method.orElse (.text usual)) = .error raised) :
    verbOf method = .error raised := by
  rw [Datum.orElse] at refused
  split at refused
  · exact refused
  · cases refused

/-- Why there is no request: the body has no JSON text, or the method no capitals. -/
def Refuses (asked : Asked) (raised : Raised) : Prop :=
  jsonBody asked.body = .error raised ∨ verbOf asked.method = .error raised

/-- Where no request has what is asked for, nothing is sent, and the fetch gives the error. -/
theorem fetch_eq_of_none (given : asked.Given options)
    (none : ¬ ∃ request, asked.Makes url request) :
    ∃ raised, asked.Refuses raised ∧ fetch url options = pure (.error raised) := by
  rw [Asked.fetch_eq given, fetchWith_eq]
  cases sent : sentBody asked.body with
  | error raised =>
    have refused := jsonBody_of_refused sent
    refine ⟨raised, .inl refused, ?_⟩
    rw [ofExcept_error_bind, attempt_throw (kind_of_jsonBody refused)]
  | ok content =>
    obtain ⟨body, isJson⟩ := content
    rw [ofExcept_ok_bind]
    cases isVerb : verbOf (asked.method.orElse (.text (usualMethod asked.body))) with
    | ok verb =>
      have both := (makes_iff asked url).mpr
        ⟨⟨verb, verb_iff.mpr isVerb⟩, body, isJson, content_iff.mpr sent⟩
      exact absurd both none
    | error raised =>
      refine ⟨raised, .inr (verbOf_of_refused isVerb), ?_⟩
      rw [request_of_refused isVerb, attempt_throw (kind_of_verbOf isVerb)]

end Asked

end Http

end PhaseScript
