import PhaseScript.Machine.Sandbox
import PhaseScript.Proofs.Pattern.Faults
import PhaseScript.Proofs.Rpc.Storage
/-
Calls of scripts to their storage objects, one after the other. Whichever object a call is made on
and whichever of its names it goes by, it is answered as the same call on one table of texts, in the
order in which keys were first put.
-/
set_option autoImplicit false

namespace PhaseScript.Rpc

/-- Calls the storage with data, as a function of the storage object does. -/
def Channel.callStorage (channel : Channel) (call : Machine.StorageCall) (args : List Datum) :
    Http.Sending Datum :=
  let given (place : Nat) : Datum := args.getD place .none
  match call with
  | .get => channel.getItem (given 0)
  | .set => channel.setItem (given 0) (given 1) (given 2)
  | .remove => channel.removeItem (given 0)
  | .find => do return .list (← channel.findItems (given 0))
  | .items => do return .list (← channel.allItems)
  | .keys => do return .list (← channel.allKeys)
  | .clear => do
    channel.clear
    return .none

/-- Calls a function of the storage object by its name. -/
def Channel.callNamed (channel : Channel) (name : Text) (args : List Datum) : Http.Sending Datum :=
  match Machine.getNamed? Machine.storageEntries name with
  | some (.builtin (.storage call)) => channel.callStorage call args
  | _ => throw (.noAttribute (.thing "SimpleNamespace" "namespace()") (Text.toString name))

/-- The names of a function of the storage object. -/
def spellings : Machine.StorageCall → List Text
  | .get => ["getItem", "get_item"]
  | .set => ["setItem", "set_item"]
  | .remove => ["removeItem", "remove_item"]
  | .find => ["findItems", "find_items"]
  | .items => ["allItems", "all_items"]
  | .keys => ["allKeys", "all_keys"]
  | .clear => ["clear"]

theorem callNamed_spelling (channel : Channel) (call : Machine.StorageCall) (name : Text)
    (among : name ∈ spellings call) (args : List Datum) : channel.callNamed name args =
    channel.callStorage call args := by
  have found : Machine.getNamed? Machine.storageEntries name = some (.builtin (.storage call)) := by
    cases call <;> simp only [spellings, List.mem_cons, List.not_mem_nil, or_false] at among
    case clear =>
      subst among
      rfl
    all_goals
      obtain rfl | rfl := among <;> rfl
  rw [Channel.callNamed, found]

/-- What is made of the outcome of a step may be made within it. -/
theorem calling_map {α β γ : Type} (step : Channel → Http.Sending α) (f : α → β)
    (next : β → Machine.Run γ) (w : Machine.World) :
    (do next (f (← Machine.Run.calling step)) : Machine.Run γ) w =
      (do next (← Machine.Run.calling fun channel => do return f (← step channel)) : Machine.Run γ)
      w := by
  simp only [bind, EStateM.bind, Machine.Run.calling, Machine.Run.theChannel, Machine.Run.sending]
  cases step (w.channel.getD default) w.exchange with
  | ok a exchange => rfl
  | error raised exchange =>
    simp only [EStateM.bind]
    cases Machine.Run.exceptionOf raised { w with exchange } <;> rfl

/-- A script that calls a function of the storage object with values calls the storage with what
they are at that time, and is given what comes back as a new value. -/
theorem callStorage_machine (call : Machine.StorageCall) (args : List Machine.Value)
    (w : Machine.World) :
    Machine.Run.callStorage call args w =
      (do Machine.Run.ofDatum (← Machine.Run.calling fun channel =>
        channel.callStorage call (args.map fun v => v.toDatum w.heap Machine.Run.showDepth [])) :
        Machine.Run Machine.Value) w := by
  have given (place : Nat) : (args.map fun v => v.toDatum w.heap Machine.Run.showDepth []).getD
        place .none =
      (args.getD place .none).toDatum w.heap Machine.Run.showDepth [] := by
    rw [List.getD_eq_getElem?_getD, List.getElem?_map, List.getD_eq_getElem?_getD]
    cases args[place]? <;> rfl
  cases call <;> simp only [Channel.callStorage, given]
  case find => exact calling_map _ Datum.list Machine.Run.ofDatum w
  case items => exact calling_map _ Datum.list Machine.Run.ofDatum w
  case keys => exact calling_map _ Datum.list Machine.Run.ofDatum w
  case clear => exact calling_map _ (fun _ => Datum.none) Machine.Run.ofDatum w
  all_goals rfl

/-- A call to the storage with a text as its key. -/
inductive Call where
  | getItem (key : Text)
  | setItem (key : Text) (value options : Datum)
  | removeItem (key : Text)
  | findItems (pattern : Text)
  | allItems
  | allKeys
  | clear

namespace Call

def kind : Call → Machine.StorageCall
  | .getItem _ => .get
  | .setItem _ _ _ => .set
  | .removeItem _ => .remove
  | .findItems _ => .find
  | .allItems => .items
  | .allKeys => .keys
  | .clear => .clear

def args : Call → List Datum
  | .getItem key | .removeItem key => [.text key]
  | .setItem key value options => [.text key, value, options]
  | .findItems pattern => [.text pattern]
  | .allItems | .allKeys | .clear => []

/-- What is kept of a value: a text itself, of anything else its JSON text. -/
def keptText : Datum → Except Datum.JsonRefusal Text
  | .text t => .ok t
  | value => value.jsonText

/-- An entry as a script gets it. -/
def entryDatum (entry : Text × Text) : Datum :=
    Datum.ofMembers [("key", .text entry.1), ("value", .text entry.2)]

/-- What a call comes to on a table that keeps its keys in the order in which they were first put.
-/
def onTable (table : Table Text) : Call → Except Raised Datum × Table Text
  | .getItem key => (.ok (((table.lookup key).map .text).getD .none), table)
  | .setItem key value _ =>
    match keptText value with
    | .ok kept =>
      (.ok (Datum.ofMembers [("key", .text key), ("value", .text kept),
        ("previous", ((table.lookup key).map fun before => entryDatum (key, before)).getD .none)]),
        table.put key kept)
    | .error refusal => (.error (.of refusal.kind refusal.message), table)
  | .removeItem key => (.ok .none, table.erase key)
  | .findItems pattern =>
    match Pattern.ofText pattern with
    | .ok pattern =>
      (.ok (.list ((table.filter fun entry => pattern.occursIn entry.1).map entryDatum)), table)
    | .error fault => (.error (failure .storageError "invalid_pattern" (.text fault.message) 400),
      table)
  | .allItems => (.ok (.list (table.map fun entry => .text entry.2)), table)
  | .allKeys => (.ok (.list (table.map fun entry => .text entry.1)), table)
  | .clear => (.ok .none, [])

/-- A call with texts of scalar values, options that can be sent, and a pattern that is read or
refused as one. -/
def Admitted : Call → Prop
  | .getItem key | .removeItem key => key.isScalar = true
  | .setItem key value options => key.isScalar = true ∧ (∀ t, value = .text t → t.isScalar = true) ∧
    Sendable options
  | .findItems pattern =>
    pattern.isScalar = true ∧ ∀ fault, Pattern.ofText pattern = .error fault → fault.kind =
    .patternError
  | .allItems | .allKeys | .clear => True

end Call

/-- What is kept is made of scalar values if the value is, for JSON text is printable. -/
theorem isScalar_keptText (value : Datum) (scalar : ∀ t, value = .text t → t.isScalar = true)
    (kept : Text) (written : Call.keptText value = .ok kept) : kept.isScalar = true := by
  by_cases isText : ∃ t, value = .text t
  · obtain ⟨t, rfl⟩ := isText
    rw [← Except.ok.inj written]
    exact scalar t rfl
  · have text : value.jsonText = .ok kept := by
      unfold Call.keptText at written
      split at written
      · next t => exact absurd ⟨t, rfl⟩ isText
      · exact written
    rw [Datum.jsonText, Datum.jsonTextBy_unsorted _ _ _ rfl] at text
    split at text
    · cases text
    · cases json : value.toJson .usual with
      | error refusal =>
        rw [json] at text
        cases text
      | ok v =>
        rw [json] at text
        rw [← Except.ok.inj text]
        exact Text.isScalar_of_printable (Json.printable_renderAt 0 v)

/-- A value without JSON text is refused before anything is sent. -/
theorem setItem_unwritten (channel : Channel) (exchange : Http.Exchange) (key value options : Datum)
    (refusal : Datum.JsonRefusal) (unwritten : Call.keptText value = .error refusal) :
    channel.setItem key value options exchange =
      .error (.of refusal.kind refusal.message) exchange := by
  unfold Call.keptText at unwritten
  split at unwritten
  · cases unwritten
  · next other =>
    unfold Channel.setItem
    split
    · next t => exact absurd rfl (other t)
    · rw [unwritten]
      rfl

/-- The members of an answer to a search hold the entries. -/
theorem found_entries (entries : Table Text) :
    itemsOf ((Datum.entry (Datum.ofJsonMembers (foundJson entries)) "value").orElse (.list [])) =
      .ok (entries.map Call.entryDatum) := by
  have items : Datum.ofJsonItems (entries.map entryJson) = entries.map Call.entryDatum := by
    induction entries with
    | nil => rfl
    | cons entry rest ih => exact congrArg _ ih
  have member : Datum.entry (Datum.ofJsonMembers (foundJson entries)) "value" =
      .list (entries.map Call.entryDatum) := by
    rw [← items]
    rfl
  rw [member]
  cases entries <;> rfl

/-- One member of each entry. -/
theorem membersNamed_entries (name : Text) (member : Text × Text → Datum)
    (named : ∀ entry : Text × Text, Datum.entry [(.text "key", .text entry.1),
        (.text "value", .text entry.2)] name =
      member entry) (entries : Table Text) :
    membersNamed name (entries.map Call.entryDatum) = .ok (entries.map member) := by
  induction entries with
  | nil => rfl
  | cons entry rest ih =>
    rw [List.map_cons, Call.entryDatum, Datum.ofMembers, membersNamed, ih]
    exact congrArg (fun d => Except.ok (d :: rest.map member)) (named entry)

section Step

variable {service : Service MemoryStore} (inMemory : service.store = MemoryStore.operations)
  {start : ServiceState MemoryStore} {channel : Channel} (leads : channel.LeadsTo service.apiRoot)
  {exchange : Http.Exchange} {table : Table Text} (serves : Serves service start exchange table)

include inMemory leads serves

theorem getItem_serves (key : Text) (scalar : key.isScalar = true) :
    ∃ next, channel.getItem (.text key) exchange = .ok (((table.lookup key).map .text).getD .none)
        next ∧
      Serves service start next table := by
  have echoed := echoed_got 969 key (table.lookup key) scalar (serves.scalar.lookup key)
  obtain ⟨next, asked, after⟩ := ask_carried inMemory leads serves
    (speakable_key "get" rfl key scalar) _ echoed
    (fun given => carryOut_get table given serves.scalar key scalar) serves.scalar
  refine ⟨next, ?_, after⟩
  have told : channel.ask "get" (.text key) .none .none exchange = _ := asked
  simp only [Channel.getItem, bind, EStateM.bind, told]
  cases table.lookup key <;> rfl

theorem setItem_serves (key kept : Text) (value options : Datum) (scalar : key.isScalar = true)
    (written : Call.keptText value = .ok kept) (keeps : kept.isScalar = true)
    (sendable : Sendable options) :
    ∃ next, channel.setItem (.text key) value options exchange =
        .ok (Datum.ofMembers [("key", .text key), ("value", .text kept),
          ("previous", ((table.lookup key).map fun before => Call.entryDatum (key, before)).getD
          .none)]) next ∧
      Serves service start next (table.put key kept) := by
  have echoed := echoed_confirmed 968 key kept (table.lookup key) scalar keeps
    (serves.scalar.lookup key)
  have speakable : Speakable "set" (some key) (some kept) options :=
    ⟨rfl, Text.scalarIfAny_some key scalar, Text.scalarIfAny_some kept keeps, sendable⟩
  obtain ⟨next, asked, after⟩ := ask_carried inMemory leads serves speakable _ echoed
    (fun given => carryOut_set table given serves.scalar key kept scalar keeps)
    (serves.scalar.put key kept scalar keeps)
  refine ⟨next, ?_, after⟩
  have told : channel.ask "set" (.text key) (.text kept) options exchange = _ := asked
  have answered : (do
      let members ← channel.ask "set" (.text key) (.text kept) options
      return Datum.ofMembers [("key", (Datum.get? members "key").getD (.text key)),
        ("value", (Datum.get? members "value").getD (.text kept)),
        ("previous", Datum.entry members "previous")] :
      Http.Sending Datum) exchange =
      .ok (Datum.ofMembers [("key", .text key), ("value", .text kept),
        ("previous", ((table.lookup key).map fun before => Call.entryDatum (key, before)).getD
        .none)]) next := by
    simp only [bind, EStateM.bind, told]
    cases table.lookup key <;> rfl
  unfold Call.keptText at written
  split at written
  · rw [← Except.ok.inj written] at answered ⊢
    exact answered
  · next other =>
    unfold Channel.setItem
    split
    · next t => exact absurd rfl (other t)
    · rw [written]
      exact answered

theorem removeItem_serves (key : Text) (scalar : key.isScalar = true) :
    ∃ next, channel.removeItem (.text key) exchange = .ok .none next ∧
      Serves service start next (table.erase key) := by
  obtain ⟨next, asked, after⟩ := ask_emptied inMemory leads serves
    (speakable_key "remove" rfl key scalar) (fun given => carryOut_remove table given key)
    (serves.scalar.filter _)
  refine ⟨next, ?_, after⟩
  have told : channel.ask "remove" (.text key) .none .none exchange = _ := asked
  simp only [Channel.removeItem, bind, EStateM.bind, told]
  rfl

theorem clear_serves : ∃ next, channel.clear exchange = .ok () next ∧
    Serves service start next [] := by
  have speakable : Speakable "clear" none none .none :=
    ⟨rfl, Text.scalarIfAny_none, Text.scalarIfAny_none, sendable_none⟩
  obtain ⟨next, asked, after⟩ := ask_emptied inMemory leads serves speakable
    (fun given => carryOut_clear table given) fun entry among => nomatch among
  refine ⟨next, ?_, after⟩
  have told : channel.ask "clear" .none .none .none exchange = _ := asked
  simp only [Channel.clear, bind, EStateM.bind, told]
  rfl

/-- A search gives the entries whose keys match, in the order of the table. -/
theorem findItems_serves (text : Text) (scalar : text.isScalar = true) (pattern : Pattern)
    (read : Pattern.ofText text = .ok pattern) :
    ∃ next, channel.findItems (.text text) exchange =
        .ok ((table.filter fun entry => pattern.occursIn entry.1).map Call.entryDatum) next ∧
      Serves service start next table := by
  have echoed := echoed_found 967 _ (serves.scalar.filter fun entry => pattern.occursIn entry.1)
  obtain ⟨next, asked, after⟩ := ask_carried inMemory leads serves
    (speakable_key "find" rfl text scalar) _ echoed
    (fun given => carryOut_find table given serves.scalar text pattern read) serves.scalar
  refine ⟨next, ?_, after⟩
  have told : channel.ask "find" (.text text) .none .none exchange = _ := asked
  simp only [Channel.findItems, bind, EStateM.bind, told, found_entries]
  rfl

/-- A pattern that is none is refused as the service refuses it. -/
theorem findItems_refused (text : Text) (scalar : text.isScalar = true) (fault : Pattern.Fault)
    (read : Pattern.ofText text = .error fault) (refuses : fault.kind = .patternError) :
    ∃ next, channel.findItems (.text text) exchange =
        .error (failure .storageError "invalid_pattern" (.text fault.message) 400) next ∧
      Serves service start next table := by
  have words := Pattern.isScalar_message_of_ofText text scalar fault read
  obtain ⟨next, posted, after⟩ := post_carried inMemory leads serves
    (speakable_key "find" rfl text scalar) _ (fun given =>
    carryOut_refused table given text fault read refuses words) serves.scalar
  have members := answerMembers_ofJson 400 _ (echoed_refused 969 fault.message words)
  have asked : channel.ask "find" (.text text) .none .none exchange = _ :=
    ask_refused posted members rfl "invalid_pattern" rfl
  refine ⟨next, ?_, after⟩
  simp only [Channel.findItems, bind, EStateM.bind, asked]
  rfl

/-- The search for every key gives the whole table. -/
theorem findItems_every : ∃ next, channel.findItems everyKey exchange =
      .ok (table.map Call.entryDatum) next ∧
    Serves service start next table := by
  obtain ⟨width, least, read⟩ := Pattern.ofText_anything
  obtain ⟨next, found, after⟩ := findItems_serves inMemory leads serves ".*" rfl _ read
  have all : (table.filter fun entry => Pattern.occursIn ⟨[.repeated .greedy 0 none [.any false]],
        width, true⟩ entry.1) =
      table := List.filter_eq_self.mpr fun entry _ => Pattern.occursIn_anything width least entry.1
  rw [all] at found
  exact ⟨next, found, after⟩

/-- Each call is answered as on the table, and the service goes on from the table after it. -/
theorem callStorage_serves (call : Call) (admitted : call.Admitted) :
    ∃ next, channel.callStorage call.kind call.args exchange =
        (match (call.onTable table).1 with
          | .ok d => .ok d next
          | .error raised => .error raised next) ∧
      Serves service start next (call.onTable table).2 := by
  cases call with
  | getItem key => exact getItem_serves inMemory leads serves key admitted
  | setItem key value options =>
    obtain ⟨scalar, texts, sendable⟩ := admitted
    cases written : Call.keptText value with
    | ok kept =>
      have keeps := isScalar_keptText value texts kept written
      simp only [Call.onTable, written]
      exact setItem_serves inMemory leads serves key kept value options scalar written keeps
        sendable
    | error refusal =>
      simp only [Call.onTable, written]
      exact ⟨exchange, setItem_unwritten channel exchange _ value options refusal written, serves⟩
  | removeItem key => exact removeItem_serves inMemory leads serves key admitted
  | findItems text =>
    obtain ⟨scalar, refuses⟩ := admitted
    cases read : Pattern.ofText text with
    | ok pattern =>
      obtain ⟨next, found, after⟩ := findItems_serves inMemory leads serves text scalar pattern read
      refine ⟨next, ?_, by simpa only [Call.onTable, read] using after⟩
      simp only [Call.kind, Call.args, Call.onTable, read, Channel.callStorage, List.getD_cons_zero,
        bind, EStateM.bind, found]
      rfl
    | error fault =>
      obtain ⟨next, refused, after⟩ := findItems_refused inMemory leads serves text scalar fault
        read (refuses fault read)
      refine ⟨next, ?_, by simpa only [Call.onTable, read] using after⟩
      simp only [Call.kind, Call.args, Call.onTable, read, Channel.callStorage, List.getD_cons_zero,
        bind, EStateM.bind, refused]
  | allItems =>
    obtain ⟨next, found, after⟩ := findItems_every inMemory leads serves
    refine ⟨next, ?_, after⟩
    simp only [Call.kind, Channel.callStorage, Channel.allItems, bind, EStateM.bind, found,
      membersNamed_entries "value" (fun entry => .text entry.2) fun _ => rfl]
    rfl
  | allKeys =>
    obtain ⟨next, found, after⟩ := findItems_every inMemory leads serves
    refine ⟨next, ?_, after⟩
    simp only [Call.kind, Channel.callStorage, Channel.allKeys, bind, EStateM.bind, found,
      membersNamed_entries "key" (fun entry => .text entry.1) fun _ => rfl]
    rfl
  | clear =>
    obtain ⟨next, cleared, after⟩ := clear_serves inMemory leads serves
    refine ⟨next, ?_, after⟩
    simp only [Call.kind, Channel.callStorage, bind, EStateM.bind, cleared]
    rfl

end Step

/-- A call on a storage object, by one of its names. -/
structure Asked where
  channel : Channel
  name : Text
  call : Call

namespace Asked

/-- What a call comes to, and the exchange after it. -/
def step (asked : Asked) (exchange : Http.Exchange) : Except Raised Datum × Http.Exchange :=
  match asked.channel.callNamed asked.name asked.call.args exchange with
  | .ok d exchange => (.ok d, exchange)
  | .error raised exchange => (.error raised, exchange)

/-- What calls come to in turn. A call that fails does not end the run. -/
def answers : List Asked → Http.Exchange → List (Except Raised Datum)
  | [], _ => []
  | asked :: rest, exchange => (asked.step exchange).1 :: answers rest (asked.step exchange).2

/-- The exchange after calls in turn. -/
def after (run : List Asked) (exchange : Http.Exchange) : Http.Exchange :=
  run.foldl (fun exchange asked => (asked.step exchange).2) exchange

/-- A call on an object of a script that leads to the storage, by one of the names of the call. -/
structure Admitted (apiRoot : Text) (asked : Asked) : Prop where
  leads : asked.channel.LeadsTo apiRoot
  named : asked.name ∈ spellings asked.call.kind
  call : asked.call.Admitted

end Asked

namespace Call

/-- What calls come to in turn on a table. -/
def answersOnTable : List Call → Table Text → List (Except Raised Datum)
  | [], _ => []
  | call :: rest, table => (call.onTable table).1 :: answersOnTable rest (call.onTable table).2

/-- The table after calls in turn. -/
def tableAfter (calls : List Call) (table : Table Text) : Table Text :=
  calls.foldl (fun table call => (call.onTable table).2) table

end Call

namespace Asked

section Run

variable {service : Service MemoryStore} (inMemory : service.store = MemoryStore.operations)
  {start : ServiceState MemoryStore}

include inMemory

theorem step_serves {exchange : Http.Exchange} {table : Table Text}
    (serves : Serves service start exchange table) (asked : Asked)
    (admitted : asked.Admitted service.apiRoot) :
    (asked.step exchange).1 = (asked.call.onTable table).1 ∧
      Serves service start (asked.step exchange).2 (asked.call.onTable table).2 := by
  obtain ⟨next, answered, after⟩ := callStorage_serves inMemory admitted.leads serves asked.call
    admitted.call
  rw [step, callNamed_spelling asked.channel asked.call.kind asked.name admitted.named, answered]
  cases come : (asked.call.onTable table).1 <;> exact ⟨rfl, after⟩

theorem run_serves (run : List Asked) (admitted : ∀ asked ∈ run, asked.Admitted service.apiRoot)
    {exchange : Http.Exchange} {table : Table Text} (serves : Serves service start exchange table) :
    answers run exchange = Call.answersOnTable (run.map (·.call)) table ∧
      Serves service start (after run exchange) (Call.tableAfter (run.map (·.call)) table) := by
  induction run generalizing exchange table with
  | nil => exact ⟨rfl, serves⟩
  | cons asked rest ih =>
    obtain ⟨same, next⟩ := step_serves inMemory serves asked (admitted asked List.mem_cons_self)
    obtain ⟨others, last⟩ := ih (fun other among =>
      admitted other (List.mem_cons_of_mem asked among)) next
    refine ⟨?_, last⟩
    rw [answers, List.map_cons, Call.answersOnTable, same, others]

end Run

/-- Calls on any number of storage objects that lead to a service with an empty store in memory, in
any order: they are answered as the same calls on one table, and the store holds that table
afterwards. -/
theorem answers_eq_answersOnTable (service : Service MemoryStore)
    (inMemory : service.store = MemoryStore.operations) (start : ServiceState MemoryStore)
    (empty : start.store = .empty) (run : List Asked) (admitted : ∀ asked ∈ run,
    asked.Admitted service.apiRoot) :
    answers run ⟨service.loopback start, []⟩ = Call.answersOnTable (run.map (·.call)) [] ∧
      (service.afterScripts (after run ⟨service.loopback start, []⟩).requests start).store =
        MemoryStore.ofTable Datum.text (Call.tableAfter (run.map (·.call)) []) := by
  have serves : Serves service start ⟨service.loopback start, []⟩ [] :=
    { client := rfl
      store := empty
      scalar := fun _ among => nomatch among }
  obtain ⟨same, last⟩ := run_serves inMemory run admitted serves
  exact ⟨same, last.store⟩

/-- The storage object of a script without a name. -/
def plainChannel : Channel := ⟨"http://double", none, callHeaders none []⟩

/-- The storage object of a script with a name, whose calls carry a header of their own. -/
def taggedChannel : Channel :=
  ⟨"http://127.0.0.1:8000", some "plugin", callHeaders (some "plugin") [("X-Trace", "7")]⟩

theorem plainChannel_leads : plainChannel.LeadsTo "/api/v1" :=
  { bound := ⟨⟨"http://double", []⟩, none, by decide +kernel, fun _ among => nomatch among⟩
    path := by decide +kernel }

theorem taggedChannel_leads : taggedChannel.LeadsTo "/api/v1" :=
  { bound := ⟨⟨"http://127.0.0.1:8000/", [("X-Trace", "7")]⟩, some "plugin", by decide +kernel,
      by decide +kernel⟩
    path := by decide +kernel }

/-- Options that a caller may give. -/
def sampleOptions : Datum := Datum.ofMembers [("ttl", .int 60)]

theorem sendable_sampleOptions : Sendable sampleOptions :=
  ⟨Or.inr ⟨_, rfl⟩, by decide +kernel, by decide +kernel, by decide +kernel, by decide +kernel⟩

/-- Two scripts that use the storage in turn. -/
def sampleRun : List Asked :=
  [⟨plainChannel, "setItem", .setItem "k" (.text "old") .none⟩,
    ⟨taggedChannel, "set_item", .setItem "k" (.list [.int 1, .none]) sampleOptions⟩,
    ⟨plainChannel, "find_items", .findItems "("⟩, ⟨plainChannel, "getItem", .getItem "k"⟩,
    ⟨taggedChannel, "allKeys", .allKeys⟩, ⟨plainChannel, "removeItem", .removeItem "k"⟩,
    ⟨taggedChannel, "clear", .clear⟩]

/-- Whether a text is read as a pattern or refused as one. -/
def isJudged : Except Pattern.Fault Pattern → Bool
  | .ok _ => true
  | .error fault => fault.kind == .patternError

theorem sampleRun_admitted (asked : Asked) (among : asked ∈ sampleRun) :
    asked.Admitted "/api/v1" := by
  have refuses (fault : Pattern.Fault) (read : Pattern.ofText "(" = .error fault) :
      fault.kind = .patternError := by
    have judged : isJudged (Pattern.ofText "(") = true := by decide +kernel
    rw [read] at judged
    exact beq_iff_eq.mp judged
  simp only [sampleRun, List.mem_cons, List.not_mem_nil, or_false] at among
  obtain rfl | rfl | rfl | rfl | rfl | rfl | rfl := among
  · exact ⟨plainChannel_leads, by decide, rfl, (fun t same =>
      Datum.text.inj same ▸ rfl), sendable_none⟩
  · exact ⟨taggedChannel_leads, by decide, rfl, (fun _ same =>
      Datum.noConfusion same), sendable_sampleOptions⟩
  · exact ⟨plainChannel_leads, by decide, rfl, refuses⟩
  · exact ⟨plainChannel_leads, by decide, rfl⟩
  · exact ⟨taggedChannel_leads, by decide, trivial⟩
  · exact ⟨plainChannel_leads, by decide, rfl⟩
  · exact ⟨taggedChannel_leads, by decide, trivial⟩

/-- What the two scripts get, and the store that they leave. -/
theorem sampleRun_answers :
    let service := Service.withStore MemoryStore.operations
    let start : ServiceState MemoryStore := ⟨.empty, [], []⟩
    answers sampleRun ⟨service.loopback start, []⟩ = Call.answersOnTable (sampleRun.map (·.call))
        [] ∧
      (service.afterScripts (after sampleRun ⟨service.loopback start, []⟩).requests start).store =
        MemoryStore.ofTable Datum.text (Call.tableAfter (sampleRun.map (·.call)) []) :=
  answers_eq_answersOnTable (Service.withStore MemoryStore.operations) rfl ⟨.empty, [], []⟩ rfl
    sampleRun sampleRun_admitted

/-- Options with a number that is too long to write. -/
def longOptions : Datum := Datum.ofMembers [("n", .int (10 ^ 5000))]

/-- Options that cannot be written are refused, and nothing is sent. -/
theorem setItem_longOptions (exchange : Http.Exchange) :
    plainChannel.setItem (.text "k") (.text "v") longOptions exchange =
      .error (.of .valueError (Json.WriteFault.message .tooManyDigits)) exchange := by
  have shallow : (Datum.ofMembers (callMembers "set" (some "k") (some "v") longOptions)).isTooDeep =
      false := by
    decide +kernel
  have long : (Datum.ofMembers (callMembers "set" (some "k") (some "v") longOptions)).hasHugeInt =
      true := by
    decide +kernel
  have posted : plainChannel.post storagePath (callMembers "set" (some "k") (some "v") longOptions)
        exchange =
      .error (.of .valueError (Json.WriteFault.message .tooManyDigits)) exchange := by
    rw [Channel.post, Http.jsonBody, shallow, if_neg Bool.false_ne_true, Datum.wireText, long,
      if_pos rfl]
    rfl
  have asked : plainChannel.ask "set" (.text "k") (.text "v") longOptions exchange =
      .error (.of .valueError (Json.WriteFault.message .tooManyDigits)) exchange := by
    unfold callMembers optionalText at posted
    simp only [Channel.ask, bind, EStateM.bind, posted]
  unfold Channel.setItem
  simp only [bind, EStateM.bind, pure, EStateM.pure, asked]

/-- On a table, the value would be kept whatever the options are. -/
theorem longOptions_are_refused :
    let service := Service.withStore MemoryStore.operations
    let start : ServiceState MemoryStore := ⟨.empty, [], []⟩
    let run : List Asked := [⟨plainChannel, "setItem", .setItem "k" (.text "v") longOptions⟩]
    plainChannel.LeadsTo service.apiRoot ∧ (∃ entries, longOptions = .dict entries) ∧
      answers run ⟨service.loopback start, []⟩ ≠ Call.answersOnTable (run.map (·.call)) [] := by
  intro service start run
  refine ⟨plainChannel_leads, ⟨_, rfl⟩, fun same => ?_⟩
  have kept : (⟨plainChannel, "setItem", .setItem "k" (.text "v") longOptions⟩ : Asked).step
        ⟨service.loopback start, []⟩ =
      (.error (.of .valueError (Json.WriteFault.message .tooManyDigits)),
      ⟨service.loopback start, []⟩) := by
    have called : plainChannel.callNamed "setItem" [.text "k", .text "v", longOptions]
          ⟨service.loopback start, []⟩ =
        plainChannel.setItem (.text "k") (.text "v") longOptions ⟨service.loopback start, []⟩ :=
      congrFun (callNamed_spelling plainChannel .set "setItem" List.mem_cons_self _) _
    rw [step, Call.args, called, setItem_longOptions]
  have first := (List.cons.inj same).1
  rw [kept] at first
  cases first

end Asked

end PhaseScript.Rpc
