import PhaseScript.Proofs.Pattern.Anything
import PhaseScript.Proofs.Rpc.Answer
/-
The storage of a script over a service that keeps its entries in memory. Seen from the scripts, of
which any number may use the service in any order, it is a table of texts.
-/
set_option autoImplicit false

namespace PhaseScript.Rpc

open Service (StorageOperation Outgoing endpoint? answerWith answered)

/-- The store that holds a table of texts. -/
abbrev storeOf (table : Table Text) : MemoryStore := MemoryStore.ofTable Datum.text table

/-- A service whose store holds a table of texts after all that was sent so far. -/
structure Serves (service : Service MemoryStore) (start : ServiceState MemoryStore)
    (exchange : Http.Exchange) (table : Table Text) : Prop where
  client : exchange.client = service.loopback start
  store : (service.afterScripts exchange.requests start).store = storeOf table
  scalar : ScalarTable table

section Carried

variable (table : Table Text) (given : Option (List (Text × Json)))

theorem carryOut_get (scalar : ScalarTable table) (key : Text)
    (keys : key.isScalar = true) :
    (⟨"get", some key, .null, given⟩ : Service.StorageCall).carryOut MemoryStore.operations
        (storeOf table) =
      .ok (.ofJson 200 (.object (gotJson key (table.lookup key)))) (storeOf table) := by
  have named : StorageOperation.ofName? "get" = some .get := by decide
  have told : Datum.ofMembers [("value", (((table.lookup key).map Datum.text).getD .none)),
        ("key", .text key)] =
      Datum.ofJson (.object (gotJson key (table.lookup key))) := by
    cases table.lookup key <;> rfl
  have echoed := echoed_got 969 key (table.lookup key) keys (scalar.lookup key)
  simp only [Service.StorageCall.carryOut, named, Service.onKey, bind, EStateM.bind,
    MemoryStore.get_run, MemoryStore.get?_ofTable, told, answerWith_ofJson 200 _ echoed]
  rfl

theorem carryOut_set (scalar : ScalarTable table) (key kept : Text)
    (keys : key.isScalar = true) (keeps : kept.isScalar = true) :
    (⟨"set", some key, .string kept, given⟩ : Service.StorageCall).carryOut MemoryStore.operations
        (storeOf table) =
      .ok (.ofJson 200 (.object (confirmedJson key kept (table.lookup key))))
      (storeOf (table.put key kept)) := by
  have named : StorageOperation.ofName? "set" = some .set := by decide
  have told : Service.confirmation (storeOf table) key (.string kept) =
      Datum.ofJson (.object (confirmedJson key kept (table.lookup key))) := by
    rw [Service.confirmation, MemoryStore.get?_ofTable]
    cases table.lookup key <;> rfl
  have echoed := echoed_confirmed 968 key kept (table.lookup key) keys keeps (scalar.lookup key)
  rw [Service.carryOut_set _ key (.string kept) ⟨named, rfl, rfl⟩, told,
    answerWith_ofJson 200 _ echoed, Datum.ofJson, MemoryStore.insert_ofTable]
  rfl

theorem carryOut_remove (key : Text) :
    (⟨"remove", some key, .null, given⟩ : Service.StorageCall).carryOut MemoryStore.operations
        (storeOf table) =
      .ok .empty (storeOf (table.erase key)) := by
  have named : StorageOperation.ofName? "remove" = some .remove := by decide
  simp only [Service.StorageCall.carryOut, named, Service.onKey, bind, EStateM.bind,
    MemoryStore.remove_run, MemoryStore.erase_ofTable]
  rfl

theorem carryOut_clear :
    (⟨"clear", none, .null, given⟩ : Service.StorageCall).carryOut MemoryStore.operations
        (storeOf table) =
      .ok .empty (storeOf []) := rfl

theorem carryOut_find (scalar : ScalarTable table) (text : Text)
    (pattern : Pattern) (read : Pattern.ofText text = .ok pattern) :
    (⟨"find", some text, .null, given⟩ : Service.StorageCall).carryOut MemoryStore.operations
        (storeOf table) =
      .ok (.ofJson 200 (.object (foundJson (table.filter fun entry => pattern.occursIn entry.1))))
      (storeOf table) := by
  have named : StorageOperation.ofName? "find" = some .find := by decide
  have searched := MemoryStore.search_ofTable Datum.text table pattern
    (Pattern.isText_of_ofText text pattern read)
  have told (entries : Table Text) :
      Datum.ofMembers
          [("value", .list ((entries.map (MemoryStore.entryOf Datum.text)).map StoreEntry.datum))] =
        Datum.ofJson (.object (foundJson entries)) := by
    have items : (entries.map (MemoryStore.entryOf Datum.text)).map StoreEntry.datum =
        Datum.ofJsonItems (entries.map entryJson) := by
      induction entries with
      | nil => rfl
      | cons entry rest ih => exact congrArg _ ih
    rw [items]
    rfl
  have echoed := echoed_found 967 _ (scalar.filter fun entry => pattern.occursIn entry.1)
  simp only [Service.StorageCall.carryOut, named, Option.getD_some, Service.searchStore,
    MemoryStore.find_run, read, searched, told, answerWith_ofJson 200 _ echoed]
  rfl

theorem carryOut_refused (text : Text) (fault : Pattern.Fault)
    (read : Pattern.ofText text = .error fault) (refuses : fault.kind = .patternError)
    (scalar : fault.message.isScalar = true) :
    (⟨"find", some text, .null, given⟩ : Service.StorageCall).carryOut MemoryStore.operations
        (storeOf table) =
      .ok (.ofJson 400 (.object (refusedJson fault.message))) (storeOf table) := by
  have named : StorageOperation.ofName? "find" = some .find := by decide
  have refusal : Service.isPatternRefusal fault.raised = true := by
    rw [Service.isPatternRefusal, Pattern.Fault.raised, Raised.of, refuses]
    rfl
  have told : Datum.ofMembers [("error", .text "invalid_pattern"),
        ("error_description", .text fault.message)] =
      Datum.ofJson (.object (refusedJson fault.message)) := rfl
  have message : fault.raised.message = fault.message := by
    rw [Pattern.Fault.raised, Raised.of, refuses]
    rfl
  have echoed := echoed_refused 969 fault.message scalar
  simp only [Service.StorageCall.carryOut, named, Option.getD_some, Service.searchStore,
    MemoryStore.find_run, read, refusal, if_true, Service.rpcError, message, told,
    answerWith_ofJson 400 _ echoed]
  rfl

end Carried

section Answers

variable {service : Service MemoryStore} (inMemory : service.store = MemoryStore.operations)
  {start : ServiceState MemoryStore} {channel : Channel} (leads : channel.LeadsTo service.apiRoot)
  {exchange : Http.Exchange} {before after : Table Text}
  (serves : Serves service start exchange before) {operation : Text} {key value : Option Text}
  {options : Datum}

include inMemory leads serves

/-- A call that is carried out on the table is answered, and the service goes on from the table
after it. -/
theorem post_carried (speakable : Speakable operation key value options) (answer : Outgoing)
    (carried : ∀ given, (⟨operation, key, optionalJson value, given⟩ : Service.StorageCall).carryOut
      MemoryStore.operations (storeOf before) = .ok answer (storeOf after))
    (scalar : ScalarTable after) :
    ∃ next, channel.post storagePath (callMembers operation key value options) exchange =
      .ok answer.response next ∧ Serves service start next after := by
  obtain ⟨posted, later⟩ := post_storage operation key value channel service start speakable.options
    exchange serves.client
  have method : (channel.incoming (callBody operation key value options)).method = "POST" :=
    upper_post
  obtain ⟨given, read⟩ := readBody_call (channel.incoming (callBody operation key value options))
    leads.saysJson rfl speakable
  have ran := Service.answer_call service inMemory
    none (channel.incoming (callBody operation key value options)) leads.path method
    (service.afterScripts exchange.requests start) _ read
  have whole : answer.forMethod (channel.incoming (callBody operation key value options)).method =
      answer := by
    rw [method]
    rfl
  rw [serves.store, carried given] at ran
  dsimp only at ran
  rw [whole] at ran
  rw [ran] at posted later
  refine ⟨_, posted, serves.client, ?_, scalar⟩
  have sent := Http.Exchange.requests_send exchange
    (channel.storageRequest (callBody operation key value options))
  rw [← sent] at later
  exact congrArg ServiceState.store later

/-- A call that is answered with members gives them. -/
theorem ask_carried (speakable : Speakable operation key value options)
    (members : List (Text × Json)) (echoed : Echoed Json.maxDepth (.object members))
      (carried : ∀ given,
      (⟨operation, key, optionalJson value, given⟩ : Service.StorageCall).carryOut
      MemoryStore.operations (storeOf before) = .ok (.ofJson 200 (.object members)) (storeOf after))
    (scalar : ScalarTable after) :
    ∃ next, channel.ask operation (optionalText key) (optionalText value) options exchange =
      .ok (Datum.ofJsonMembers members) next ∧ Serves service start next after := by
  obtain ⟨next, posted, serves⟩ := post_carried inMemory leads serves speakable _ carried scalar
  exact ⟨next, ask_success posted (answerMembers_ofJson 200 members echoed) rfl, serves⟩

/-- A call that is answered without a body gives no members. -/
theorem ask_emptied (speakable : Speakable operation key value options) (carried : ∀ given,
      (⟨operation, key, optionalJson value, given⟩ : Service.StorageCall).carryOut
      MemoryStore.operations (storeOf before) = .ok .empty (storeOf after))
    (scalar : ScalarTable after) :
    ∃ next, channel.ask operation (optionalText key) (optionalText value) options exchange =
        .ok [] next ∧
      Serves service start next after := by
  obtain ⟨next, posted, serves⟩ := post_carried inMemory leads serves speakable _ carried scalar
  exact ⟨next, ask_success posted rfl rfl, serves⟩

end Answers

end PhaseScript.Rpc
