import PhaseScript.Proofs.Json.Limits
import PhaseScript.Proofs.Machine.Requests
/-
The log of a script. A line goes through its JSON text to the service, which names its level and
shows its messages; so each call of the console comes to one record, in the order of the calls.
-/
set_option autoImplicit false

namespace PhaseScript

/-- The state with further records in its log. -/
def ServiceState.logging {σ : Type} (s : ServiceState σ) (records : List Service.LogRecord) :
    ServiceState σ :=
  { s with log := s.log ++ records }

@[simp] theorem ServiceState.logging_nil {σ : Type} (s : ServiceState σ) : s.logging [] = s := by
  rw [logging, List.append_nil]

@[simp] theorem ServiceState.logging_logging {σ : Type} (s : ServiceState σ)
    (records others : List Service.LogRecord) :
    (s.logging records).logging others = s.logging (records ++ others) := by
  simp only [logging, List.append_assoc]

namespace Service

/-- The level that a name stands for, in letters of any case. -/
def IsLevel (name : Text) : LogLevel → Prop
  | .debug => name.lower = ("debug" : Text)
  | .warning => name.lower = ("warn" : Text) ∨ name.lower = ("warning" : Text)
  | .error => name.lower = ("error" : Text)
  | .info => name.lower ∉ (["debug", "warn", "warning", "error"] : List Text)

theorem isLevel_iff {name : Text} {level : LogLevel} :
    IsLevel name level ↔ LogLevel.ofName name = level := by
  constructor
  · intro named
    cases level with
    | debug =>
      have named : name.lower = ("debug" : Text) := named
      simp only [LogLevel.ofName, named]
      rfl
    | warning =>
      obtain named | named := named <;> simp only [LogLevel.ofName, named] <;> rfl
    | error =>
      have named : name.lower = ("error" : Text) := named
      simp only [LogLevel.ofName, named]
      rfl
    | info =>
      simp only [IsLevel, List.mem_cons, List.not_mem_nil, or_false, not_or] at named
      simp only [LogLevel.ofName, Text.is, beq_eq_false_iff_ne.mpr named.1,
        beq_eq_false_iff_ne.mpr named.2.1, beq_eq_false_iff_ne.mpr named.2.2.1,
        beq_eq_false_iff_ne.mpr named.2.2.2, Bool.or_self, Bool.false_eq_true, if_false]
  · rintro rfl
    simp only [LogLevel.ofName, Text.is, Bool.or_eq_true, beq_iff_eq]
    split
    · next debug => exact debug
    split
    · next warning => exact warning
    split
    · next error => exact error
    · next debug warning error =>
      simp only [IsLevel, List.mem_cons, List.not_mem_nil, or_false, not_or]
      exact ⟨debug, (not_or.mp warning).1, (not_or.mp warning).2, error⟩

/-- Halves of surrogate pairs make no difference to the level. -/
theorem ofName_joinHalves (name : Text) :
    LogLevel.ofName (Json.joinHalves name) = LogLevel.ofName name := by
  have same (word : String) (ascii : (Text.ofString word).all (·.val < 128) = true) :
      (Json.joinHalves name).lower.is word = name.lower.is word := by
    have small : ∀ q ∈ Text.ofString word, q.val < 128 := by simpa using ascii
    rw [Text.is, Text.is, Bool.eq_iff_iff, beq_iff_eq, beq_iff_eq]
    exact Json.lower_joinHalves_eq_iff small
  simp only [LogLevel.ofName, same "debug" rfl, same "warn" rfl, same "warning" rfl,
    same "error" rfl]

theorem answerLogger_of_read {σ : Type} {request : Incoming} {call : LogCall}
    (read : readBody LogCall.check request = .ok call) (s : ServiceState σ) :
    answerLogger request s = .ok .empty (s.logging [call.record]) := by
  rw [answerLogger, read]
  rfl

end Service

/-- Where the first of two related values has but one second, a list has but one list. -/
theorem forall₂_iff_eq_map {α β : Type} {R : α → β → Prop} {f : α → β} {l : List α} {l' : List β}
    (only : ∀ a ∈ l, ∀ b, R a b ↔ b = f a) : List.Forall₂ R l l' ↔ l' = l.map f := by
  induction l generalizing l' with
  | nil => rw [List.forall₂_nil_left_iff, List.map_nil]
  | cons a l ih =>
    obtain ⟨first, others⟩ := List.forall_mem_cons.mp only
    cases l' with
    | nil => exact iff_of_false nofun nofun
    | cons b l' => rw [List.forall₂_cons, first, ih others, List.map_cons, List.cons.injEq]

namespace Rpc

open Service (LogLevel LogCall LogRecord endpoint? saysJson readBody)

/-- A line that a script logs: the name of its level, and its messages. -/
structure Line where
  level : Text
  messages : List Datum

namespace Line

/-- The call of the service that logs the line. -/
def call (line : Line) : ServiceCall := .console (.text line.level) line.messages

/-- The line as the service reads it. -/
def carried (module : Option Text) (line : Line) : LogCall where
  module := module.map Json.joinHalves
  level := Json.joinHalves line.level
  messages := line.messages.map fun message => Json.reread true message.jsonSafe

/-- A message that can be logged: it has a JSON text, and there is room for the two containers that
it is put into. -/
structure Loggable (message : Datum) : Prop where
  written : ∃ t, Http.jsonBody message = .ok t
  room : 2 * (message.depth + 2) ≤ Datum.depthLimit

/-- A message comes back from its JSON text as a value. -/
def Returned (message : Datum) (v : Json) : Prop :=
  ∃ t, Http.jsonBody message = .ok t ∧ Json.read t = .ok v

/-- The name of a module as a line shows it. -/
def shownModule : Option Text → Text
  | none | some [] => "-"
  | some name => Json.joinHalves name

/-- What the service logs of a line: the level that is named, and the module in brackets before the
messages, all as they come back from JSON. -/
structure Recorded (module : Option Text) (line : Line) (record : LogRecord) : Prop where
  level : Service.IsLevel line.level record.level
  text : ∃ values, List.Forall₂ Returned line.messages values ∧ record.text =
    "[" ++ shownModule module ++ "] " ++ Text.join " " (values.map fun v => (Datum.ofJson v).plain)
  module : record.module = module.map Json.joinHalves

/-- The members of a line as JSON. -/
def jsonMembers (module : Option Text) (level : Text) (messages : List Json) :
    List (Text × Json) :=
  [("module", optionalJson module), ("level", .string level), ("messages", .array messages)]

theorem jsonSafe_logMembers (channel : Channel) (level : Text) (messages : List Datum) :
    (Datum.ofMembers (logMembers channel (.text level) messages)).jsonSafe =
      .object (jsonMembers channel.module level (messages.map Datum.jsonSafe)) :=
  (Option.some.inj (ServiceCall.payload_eq channel (.console (.text level) messages))).symm

theorem rereadAll_eq_map (ascii : Bool) (items : List Json) :
    Json.rereadAll ascii items = items.map (Json.reread ascii) := by
  induction items with
  | nil => rfl
  | cons item items ih => rw [Json.rereadAll, ih, List.map_cons]

theorem reread_jsonMembers (module : Option Text) (level : Text) (messages : List Json) :
    Json.reread true (.object (jsonMembers module level messages)) =
      .object (jsonMembers (module.map Json.joinHalves) (Json.joinHalves level)
        (messages.map (Json.reread true))) := by
  have name (s : String) (scalar : (Text.ofString s).isScalar = true) :
      Json.rereadText true (Text.ofString s) = Text.ofString s :=
    Json.rereadText_of_scalar true _ scalar
  have itself : Json.reread true (optionalJson module) =
      optionalJson (module.map Json.joinHalves) := by cases module <;> rfl
  simp only [jsonMembers, Json.reread, Json.rereadMembers, name "module" rfl, name "level" rfl,
    name "messages" rfl, itself, rereadAll_eq_map]
  rfl

theorem check_jsonMembers (module : Option Text) (level : Text) (messages : List Json) :
    LogCall.check (jsonMembers module level messages) = .ok ⟨module, level, messages⟩ := by
  cases module <;> rfl

section Written

variable {messages : List Datum}

/-- Where each message can be logged, so can all together. -/
theorem postable_list (loggable : ∀ message ∈ messages, Loggable message) :
    Postable (.list messages) ∧
      Json.itemsFault? false (messages.map Datum.jsonSafe) = none := by
  induction messages with
  | nil => exact ⟨⟨rfl, by decide, rfl⟩, rfl⟩
  | cons message messages ih =>
    obtain ⟨⟨⟨t, made⟩, room⟩, others⟩ := List.forall_mem_cons.mp loggable
    obtain ⟨⟨acyclic, deep, few⟩, written⟩ := ih others
    obtain ⟨shallow, short, plain, -⟩ := Http.jsonBody_eq_ok_iff.mp made
    rw [Datum.isTooDeep, Bool.or_eq_false_iff] at shallow
    rw [Datum.hasCycle] at acyclic
    rw [Datum.depth] at deep
    rw [Datum.hasHugeInt] at few
    refine ⟨⟨?_, ?_, ?_⟩, ?_⟩
    · rw [Datum.hasCycle, Datum.anyCycle, shallow.1, acyclic, Bool.or_false]
    · rw [Datum.depth, Datum.depthOfAll]
      omega
    · rw [Datum.hasHugeInt, Datum.anyHuge, short, few, Bool.or_false]
    · rw [List.map_cons, Json.itemsFault?, plain, written, Option.or_none]

/-- A line whose messages can be logged has a JSON text. -/
theorem jsonBody_line (channel : Channel) (level : Text)
    (loggable : ∀ message ∈ messages, Loggable message) :
    ∃ body, Http.jsonBody (Datum.ofMembers (logMembers channel (.text level) messages)) =
      .ok body := by
  obtain ⟨postable, written⟩ := postable_list loggable
  have module : Json.writeFault? false (optionalJson channel.module) = none := by
    cases channel.module <;> rfl
  refine ⟨_, jsonBody_ofMembers ?_ ?_⟩
  · simp only [logMembers, List.forall_mem_cons]
    exact ⟨postable_optionalText channel.module, postable_text level, postable, nofun⟩
  · simp only [jsonSafe_logMembers, jsonMembers, Json.writeFault?, Json.membersFault?, module,
      written, Option.or_none]

end Written

/-- The service reads the line as it comes back from JSON. -/
theorem readBody_line {channel : Channel} {line : Line} {body : Text} {incoming : Service.Incoming}
    (made : Http.jsonBody (Datum.ofMembers (logMembers channel (.text line.level) line.messages)) =
      .ok body)
    (said : saysJson incoming.headers = true) (sent : incoming.body = Utf8.encode body) :
    readBody LogCall.check incoming = .ok (line.carried channel.module) := by
  have printable : body.Printable := by
    obtain ⟨-, -, -, rfl⟩ := Http.jsonBody_eq_ok_iff.mp made
    exact Json.printable_renderAt 0 _
  have back := (Http.read_jsonBody made).1
  rw [jsonSafe_logMembers, reread_jsonMembers, List.map_map] at back
  rw [readBody, bodyMembers_printable incoming said sent printable back]
  exact congrArg (Except.mapError _) (check_jsonMembers _ _ _)

theorem shownModule_eq (module : Option Text) :
    (match module.map Json.joinHalves with
      | some name => if name.isEmpty then "-" else name
      | none => "-") = shownModule module := by
  obtain _ | _ | ⟨p, rest⟩ := module
  · rfl
  · rfl
  · have some_ : (Json.joinHalves (p :: rest)).isEmpty = false :=
      List.isEmpty_eq_false_iff.mpr (Json.joinHalves_ne_nil _ (List.cons_ne_nil p rest))
    simp only [Option.map_some, some_, Bool.false_eq_true, if_false, shownModule]

theorem returned_iff {message : Datum} (loggable : Loggable message) {v : Json} :
    Returned message v ↔ v = Json.reread true message.jsonSafe := by
  constructor
  · rintro ⟨t, made, read⟩
    exact Except.ok.inj (read.symm.trans (Http.read_jsonBody made).1)
  · rintro rfl
    obtain ⟨t, made⟩ := loggable.written
    exact ⟨t, made, (Http.read_jsonBody made).1⟩

/-- The one record of a line is that of the line as the service reads it. -/
theorem recorded_iff {module : Option Text} {line : Line}
    (loggable : ∀ message ∈ line.messages, Loggable message) {record : LogRecord} :
    Recorded module line record ↔ record = (line.carried module).record := by
  have returned {values : List Json} : List.Forall₂ Returned line.messages values ↔
      values = (line.carried module).messages :=
    forall₂_iff_eq_map fun message among _ => returned_iff (loggable message among)
  have text : (line.carried module).text = "[" ++ shownModule module ++ "] " ++
      Text.join " " ((line.carried module).messages.map fun v => (Datum.ofJson v).plain) := by
    rw [← shownModule_eq]
    rfl
  have level : LogLevel.ofName (line.carried module).level = LogLevel.ofName line.level :=
    Service.ofName_joinHalves line.level
  constructor
  · rintro ⟨isLevel, ⟨values, back, shown⟩, isModule⟩
    obtain rfl := returned.mp back
    rw [LogCall.record, level, text, Service.isLevel_iff.mp isLevel, ← shown]
    obtain ⟨_, _, _⟩ := record
    cases isModule
    rfl
  · rintro rfl
    exact ⟨Service.isLevel_iff.mpr level.symm, ⟨_, returned.mpr rfl, text⟩, rfl⟩

end Line

/-- A channel to the log of a service: its headers say that it carries JSON, and its path is that of
the logger. -/
structure Channel.Logs (channel : Channel) (apiRoot : Text) : Prop where
  said : saysJson channel.headers = true
  path : endpoint? apiRoot (Service.Incoming.ofUrl "POST" (channel.baseUrl ++ loggerPath) []
    []).path = some .logger

/-- A line whose messages can be logged is logged: the service adds its record to the log, and
nothing else comes of it. -/
theorem log_arrives {σ : Type} {service : Service σ} {start : ServiceState σ} {channel : Channel}
    {exchange : Http.Exchange} {line : Line} (logs : channel.Logs service.apiRoot)
    (client : exchange.client = service.loopback start)
    (loggable : ∀ message ∈ line.messages, Line.Loggable message) :
    ∃ next, channel.log (.text line.level) line.messages exchange = .ok () next ∧
      next.client = exchange.client ∧
      service.afterScripts next.requests start =
        (service.afterScripts exchange.requests start).logging
          [(line.carried channel.module).record] := by
  obtain ⟨body, made⟩ := Line.jsonBody_line channel line.level loggable
  obtain ⟨posted, later⟩ := post_answered channel loggerPath made service start exchange client
  let incoming : Service.Incoming :=
    .ofUrl "POST" (channel.baseUrl ++ loggerPath) channel.headers (Utf8.encode body)
  have ran := (congrFun (Service.carryOut_logger service incoming none logs.path upper_post)
    (service.afterScripts exchange.requests start)).trans
    (Service.answerLogger_of_read (Line.readBody_line made logs.said rfl) _)
  have answered := Service.answer_of_ok ran
  rw [show incoming.method = "POST" from upper_post] at answered
  rw [answered] at posted later
  refine ⟨(exchange.send (channel.request loggerPath body)).2, ?_, rfl, ?_⟩
  · simp only [logMembers] at posted
    simp only [Channel.log, bind, EStateM.bind, posted]
    rfl
  · rw [Http.Exchange.requests_send]
    exact later

end Rpc

namespace Machine

open Rpc (Line)
open Rpc.Line (Loggable Recorded)
open Service (endpoint?)

section Lines

variable {σ : Type} {service : Service σ} {start : ServiceState σ}

/-- A call of the console raises nothing and adds its record to the log, if its messages can be
logged. -/
theorem Run.line_arrives (m : Interp) {f : Builtin} {bound : List (Bound Value)} {w : World}
    {line : Line} (logs : w.theChannel.Logs service.apiRoot)
    (client : w.exchange.client = service.loopback start)
    (isLine : serviceCall? w.heap f bound = some line.call)
    (loggable : ∀ message ∈ line.messages, Loggable message) :
    ∃ exchange, callHost m f bound w = .ok .none { w with exchange } ∧
      exchange.client = w.exchange.client ∧
      service.afterScripts exchange.requests start =
        (service.afterScripts w.exchange.requests start).logging
          [(line.carried w.theChannel.module).record] := by
  obtain ⟨exchange, logged, same, arrives⟩ := Rpc.log_arrives logs client loggable
  refine ⟨exchange, ?_, same, arrives⟩
  have called : calling (fun channel => channel.log (.text line.level) line.messages) w =
      .ok () { w with exchange } := (bind_of_ok rfl).trans (sending_of_ok logged)
  exact (callHost_console m isLine).trans (bind_of_ok called)

/-- A script logs lines, one after another, and none of the calls raises. What it does between two
calls sends nothing. -/
inductive Logged (m : Interp) : World → List Line → World → Prop
  | none (w : World) : Logged m w [] w
  | line {f : Builtin} {bound : List (Bound Value)} {w called next after : World} {line : Line}
      {lines : List Line} (isLine : serviceCall? w.heap f bound = some line.call)
      (returns : Run.callHost m f bound w = .ok .none called)
      (exchange : next.exchange = called.exchange) (channel : next.channel = called.channel)
      (goesOn : Logged m next lines after) : Logged m w (line :: lines) after

/-- Calls of the console add their records to the log, in their order. -/
theorem Calls.logged {m : Interp} {lines : List Line} {w after : World}
    (logs : w.theChannel.Logs service.apiRoot)
    (client : w.exchange.client = service.loopback start)
    (loggable : ∀ line ∈ lines, ∀ message ∈ line.messages, Loggable message)
    (made : Calls m w (lines.map Line.call) after) :
    Logged m w lines after ∧ service.afterScripts after.exchange.requests start =
      (service.afterScripts w.exchange.requests start).logging
        (lines.map fun line => (line.carried w.theChannel.module).record) := by
  -- The channel and the client stay as they are, so each call finds them as the first one did.
  induction lines generalizing w with
  | nil =>
    cases made
    exact ⟨.none _, (ServiceState.logging_nil _).symm⟩
  | cons line lines ih =>
    obtain ⟨first, others⟩ := List.forall_mem_cons.mp loggable
    cases made with
    | @call f bound _ next _ _ _ isLine exchange channel goesOn =>
      obtain ⟨sent, returns, same, arrives⟩ := Run.line_arrives m logs client isLine first
      rw [Run.stateAfter_of_ok returns] at exchange channel
      have sameChannel : next.theChannel = w.theChannel := by
        rw [World.theChannel, channel]
        rfl
      obtain ⟨logged, rest⟩ := ih (sameChannel ▸ logs)
        ((congrArg Http.Exchange.client exchange).trans (same.trans client)) others goesOn
      refine ⟨.line isLine returns exchange channel logged, ?_⟩
      rw [rest, sameChannel, exchange, arrives, ServiceState.logging_logging]
      rfl

end Lines

/-- The state before a script over the service as it is run where it is developed. -/
def World.developing : World :=
  let service := Service.withStore MemoryStore.operations
  { (default : World) with exchange := ⟨service.loopback ⟨.empty, [], []⟩, []⟩ }

end Machine

end PhaseScript
