import PhaseScript.Proofs.Service.Answer
import PhaseScript.Proofs.Service.Routes
import PhaseScript.Proofs.Store.Memory
import PhaseScript.Service.Routes
/-
What requests to the storage do to a store in memory. A request that fails leaves the store as it
was, with one exception: a value that was put, and the one before it, are told in the answer only
after the store has changed, and not every value that can be put can be told.
-/
set_option autoImplicit false

namespace PhaseScript.Service

/-- What the storage says of a value that was put: the key, the value and the entry that was there
before. -/
def confirmation (store : MemoryStore) (key : Text) (value : Json) : Datum :=
  let before := (store.get? (.text key)).map fun value => StoreEntry.datum ⟨.text key, value⟩
  Datum.ofMembers [("key", .text key), ("value", Datum.ofJson value),
  ("previous", before.getD .none)]

/-- A value whose confirmation can stand in the body of an answer. -/
structure Confirmable (store : MemoryStore) (key : Text) (value : Json) : Prop where
  scalar : key.isScalar = true
  value : (Datum.ofJson value).Tellable (Datum.depthLimit - 1)
  before : ∀ before, store.get? (.text key) = some before →
  Datum.Tellable (Datum.depthLimit - 2) before

theorem confirmable_iff (store : MemoryStore) (key : Text) (value : Json) :
    (confirmation store key value).Tellable Datum.depthLimit ↔ Confirmable store key value := by
  have names : Text.isScalar "key" = true ∧ Text.isScalar "value" = true ∧
      Text.isScalar "previous" = true :=
    ⟨rfl, rfl, rfl⟩
  have entry (before : Datum) : (StoreEntry.datum ⟨.text key, before⟩).Tellable
        (Datum.depthLimit - 2 + 1) ↔
      key.isScalar = true ∧ before.Tellable (Datum.depthLimit - 2) := by
    rw [StoreEntry.datum, Datum.tellable_ofMembers]
    simp only [List.forall_mem_cons, names, Datum.tellable_text, true_and, List.not_mem_nil,
      false_implies, implies_true, and_true]
  have whole : (confirmation store key value).Tellable (Datum.depthLimit - 1 + 1) ↔
      Confirmable store key value := by
    rw [confirmation, Datum.tellable_ofMembers]
    simp only [List.forall_mem_cons, names, Datum.tellable_text, true_and, List.not_mem_nil,
      false_implies, implies_true, and_true]
    constructor
    · rintro ⟨scalar, tellable, before⟩
      refine ⟨scalar, tellable, fun d found => ?_⟩
      rw [found] at before
      exact ((entry d).mp before).2
    · rintro ⟨scalar, tellable, before⟩
      refine ⟨scalar, tellable, ?_⟩
      cases found : store.get? (.text key) with
      | none => exact Datum.tellable_none
      | some d => exact (entry d).mpr ⟨scalar, before d found⟩
  exact whole

/-- A call to put a value under a key. -/
structure StorageCall.Sets (call : StorageCall) (key : Text) (value : Json) : Prop where
  operation : StorageOperation.ofName? call.operation = some .set
  key : call.key = some key
  value : call.value = value

/-- A value is put before it is confirmed. -/
theorem carryOut_set (call : StorageCall) (key : Text) (value : Json) (sets : call.Sets key value)
    (store : MemoryStore) :
    call.carryOut MemoryStore.operations store =
      answered (answerWith 200 (confirmation store key value))
      (store.insert (.text key) (Datum.ofJson value)) := by
  have told : ((store.get? (.text key)).map fun before => (⟨.text key, before⟩ : StoreEntry)).map
        StoreEntry.datum =
      (store.get? (.text key)).map fun before => StoreEntry.datum ⟨.text key, before⟩ :=
      Option.map_map _ _ _
  simp only [StorageCall.carryOut, sets.operation, sets.key, sets.value, onKey, bind, EStateM.bind,
    MemoryStore.set_run, confirmation, told]

/-- What a call can come to over a store in memory: an answer or a refusal that leaves it as it is,
an answer that tells of success, or a value that was put and cannot be confirmed. -/
inductive StorageCall.ComesTo (call : StorageCall) (store : MemoryStore) :
    EStateM.Result Raised MemoryStore Outgoing → Prop
  | answer (answer : Outgoing) : ComesTo call store (.ok answer store)
  | refusal (raised : Raised) : ComesTo call store (.error raised store)
  | success (answer : Outgoing) (after : MemoryStore) : Http.isSuccess answer.status = true →
      ComesTo call store (.ok answer after)
  | unconfirmed (key : Text) (value : Json) (raised : Raised) : call.Sets key value →
        ¬ Confirmable store key value →
      ComesTo call store (.error raised (store.insert (.text key) (Datum.ofJson value)))

theorem comesTo_answered (call : StorageCall) (store : MemoryStore)
    (answer : Except Raised Outgoing) :
    call.ComesTo store (answered answer store) := by
  cases answer with
  | ok answer => exact .answer answer
  | error raised => exact .refusal raised

theorem comesTo_set (call : StorageCall) (store : MemoryStore) (key : Text) (value : Json)
    (sets : call.Sets key value) :
    call.ComesTo store (call.carryOut MemoryStore.operations store) := by
  rw [carryOut_set call key value sets]
  by_cases confirmable : Confirmable store key value
  · obtain ⟨shallow, v, json, characters⟩ := (confirmable_iff store key value).mpr confirmable
    rw [answerWith_of_toJson 200 _ v shallow json characters]
    exact .success _ _ rfl
  · cases told : answerWith 200 (confirmation store key value) with
    | error raised => exact .unconfirmed key value raised sets confirmable
    | ok answer =>
      exact absurd ((confirmable_iff store key value).mp (tellable_of_answerWith 200 _ answer told))
        confirmable

/-- A search leaves the store as it is. -/
theorem comesTo_search (call : StorageCall) (store : MemoryStore) (pattern : Text) :
    call.ComesTo store (searchStore MemoryStore.operations pattern store) := by
  rw [searchStore, MemoryStore.find_run]
  cases Pattern.ofText pattern with
  | error fault =>
    dsimp only
    split
    · exact comesTo_answered call store _
    · exact .refusal fault.raised
  | ok pattern =>
    dsimp only
    cases MemoryStore.search pattern store.entries with
    | ok entries => exact comesTo_answered call store _
    | error raised =>
      dsimp only
      split
      · exact comesTo_answered call store _
      · exact .refusal raised

/-- One call, whatever it asks for. -/
theorem comesTo_carryOut (call : StorageCall) (store : MemoryStore) :
    call.ComesTo store (call.carryOut MemoryStore.operations store) := by
  cases named : StorageOperation.ofName? call.operation with
  | none =>
    rw [StorageCall.carryOut, named]
    exact comesTo_answered call store _
  | some operation =>
    -- An operation on one key is refused without a key.
    have keyless (other : operation ≠ .clear ∧ operation ≠ .find) (missing : call.key = none) :
        call.ComesTo store (call.carryOut MemoryStore.operations store) := by
      cases operation with
      | clear => exact absurd rfl other.1
      | find => exact absurd rfl other.2
      | get | set | remove =>
        rw [StorageCall.carryOut, named, missing]
        exact comesTo_answered call store _
    cases operation with
    | clear =>
      rw [StorageCall.carryOut, named]
      exact .success _ _ rfl
    | find =>
      rw [StorageCall.carryOut, named]
      exact comesTo_search call store _
    | get =>
      cases given : call.key with
      | none => exact keyless (by simp) given
      | some key =>
        rw [StorageCall.carryOut, named, given]
        exact comesTo_answered call store _
    | remove =>
      cases given : call.key with
      | none => exact keyless (by simp) given
      | some key =>
        simp only [StorageCall.carryOut, named, given, onKey, bind, EStateM.bind,
          MemoryStore.remove_run]
        exact .success _ _ rfl
    | set =>
      cases given : call.key with
      | none => exact keyless (by simp) given
      | some key => exact comesTo_set call store key call.value ⟨named, given, rfl⟩

/-- A request whose body asks to put a value under a key. -/
def AsksToSet (request : Incoming) (key : Text) (value : Json) : Prop :=
  ∃ call, readBody StorageCall.check request = .ok call ∧ call.Sets key value

variable (service : Service MemoryStore) (inMemory : service.store = MemoryStore.operations)
  (run : Option (PluginRunner MemoryStore)) (request : Incoming)
  (atStorage : endpoint? service.apiRoot request.path = some .storage)
  (posted : request.method = "POST") (s : ServiceState MemoryStore)

include atStorage posted in
/-- A request that cannot be read as a call is refused over the same state. -/
theorem answer_unread (fault : BodyFault) (unread : readBody StorageCall.check request =
    .error fault) :
    service.answer run request s =
      (((Problem.body fault).answer request.path service.tellsFailures).forMethod request.method,
      s) := by
  have ran := congrFun (service.carryOut_storage request run atStorage posted) s
  simp only [answerStorage, unread] at ran
  exact answer_of_error ran

include inMemory atStorage posted in
/-- A call is carried out on the store, and what the store raises is told as a failure of the
service. -/
theorem answer_call (call : StorageCall) (read : readBody StorageCall.check request = .ok call) :
    service.answer run request s =
      match call.carryOut MemoryStore.operations s.store with
      | .ok answer store => (answer.forMethod request.method, { s with store })
      | .error raised store =>
        (((Problem.failed raised.message?).answer request.path service.tellsFailures).forMethod
          request.method, { s with store }) := by
  have ran := congrFun (service.carryOut_storage request run atStorage posted) s
  simp only [answerStorage, read, onStore, inMemory] at ran
  cases carried : call.carryOut MemoryStore.operations s.store with
  | ok answer store =>
    rw [carried] at ran
    exact answer_of_ok ran
  | error raised store =>
    rw [carried] at ran
    exact answer_of_error ran

theorem status_forMethod (method : Text) (answer : Outgoing) : (answer.forMethod method).status =
    answer.status := by
  unfold Outgoing.forMethod
  split <;> rfl

theorem status_failed (path : Text) (message : Option Text) (tells : Bool) :
    ((Problem.failed message).answer path tells).status = 500 := by
  simp only [Problem.answer, failureAnswer]
  split
  · rfl
  · split <;> rfl

include inMemory atStorage posted in
/-- A request to the storage that fails has changed the store exactly if it put a value that cannot
be confirmed. -/
theorem failed_request_changes_store_iff :
    let after := service.answer run request s
    (Http.isSuccess after.1.status = false ∧ after.2.store ≠ s.store ↔
      ∃ key value, AsksToSet request key value ∧ ¬ Confirmable s.store key value ∧
        s.store.insert (.text key) (Datum.ofJson value) ≠ s.store) ∧
    ∀ key value, AsksToSet request key value → ¬ Confirmable s.store key value →
      after.1.status = 500 ∧ after.2.store = s.store.insert (.text key) (Datum.ofJson value) := by
  intro after
  have unconfirmed : ∀ key value, AsksToSet request key value → ¬ Confirmable s.store key value →
      after.1.status = 500 ∧ after.2.store = s.store.insert (.text key) (Datum.ofJson value) := by
    rintro key value ⟨call, read, sets⟩ untold
    cases told : answerWith 200 (confirmation s.store key value) with
    | ok answer =>
      exact absurd ((confirmable_iff s.store key value).mp
        (tellable_of_answerWith 200 _ answer told)) untold
    | error raised =>
      have ran := answer_call service inMemory run request atStorage posted s call read
      rw [carryOut_set call key value sets, told] at ran
      simp only [after, ran]
      exact ⟨(status_forMethod _ _).trans (status_failed _ _ _), rfl⟩
  refine ⟨⟨?_, ?_⟩, unconfirmed⟩
  · rintro ⟨failed, changed⟩
    cases read : readBody StorageCall.check request with
    | error fault =>
      have ran := answer_unread service run request atStorage posted s fault read
      exact absurd (by simp only [after, ran]) changed
    | ok call =>
      have ran := answer_call service inMemory run request atStorage posted s call read
      have cases_ := comesTo_carryOut call s.store
      generalize call.carryOut MemoryStore.operations s.store = result at ran cases_
      cases cases_ with
      | answer answer => exact absurd (by simp only [after, ran]) changed
      | refusal raised => exact absurd (by simp only [after, ran]) changed
      | success answer store success =>
        simp only [after, ran, status_forMethod, success] at failed
        cases failed
      | unconfirmed key value raised sets untold =>
        refine ⟨key, value, ⟨call, read, sets⟩, untold, ?_⟩
        simpa only [after, ran] using changed
  · rintro ⟨key, value, asks, untold, different⟩
    obtain ⟨status, store⟩ := unconfirmed key value asks untold
    refine ⟨?_, ?_⟩
    · rw [status]
      rfl
    · rwa [store]

/-- The members of a body that is said to be JSON and is an object. -/
theorem bodyMembers_of_read (request : Incoming) (t : Text) (members : List (Text × Json))
    (said : saysJson request.headers = true) (given : request.body.isEmpty = false)
    (decoded : decodeMessage request.body = .ok t) (read : Json.read t = .ok (.object members)) :
    bodyMembers request = .ok members := by
  simp only [bodyMembers, given, said, decoded, read, Bool.not_true, Bool.false_eq_true, if_false]

/-- A request to put NaN, which is read and cannot be told. -/
def settingNaN : Incoming :=
  ⟨"POST", Rpc.storagePath, [("content-type", jsonType)],
    Utf8.encode "\x7b\"operation\": \"set\", \"key\": \"k\", \"value\": NaN\x7d"⟩

theorem settingNaN_asks : AsksToSet settingNaN "k" (.float .nan) := by
  have read := Json.read_of_readsAs "\x7b\"operation\": \"set\", \"key\": \"k\", \"value\": NaN\x7d"
    (.object [("operation", .string "set"), ("key", .string "k"), ("value", .float .nan)])
    (by decide +kernel)
  have members := bodyMembers_of_read settingNaN _ _ (by decide +kernel) (by decide +kernel)
    (by decide +kernel) read
  refine ⟨⟨"set", some "k", .float .nan, none⟩, ?_, by decide, rfl, rfl⟩
  rw [readBody, members]
  rfl

/-- The request fails, and the store holds the value. -/
theorem settingNaN_changes_store :
    let service := withStore MemoryStore.operations
    let after := service.answer none settingNaN ⟨.empty, [], []⟩
    service.store = MemoryStore.operations ∧ endpoint? service.apiRoot settingNaN.path =
        some .storage ∧
      settingNaN.method = "POST" ∧ Http.isSuccess after.1.status = false ∧ after.2.store ≠
      .empty := by
  have atStorage : endpoint? (withStore MemoryStore.operations).apiRoot settingNaN.path =
      some .storage := by
    decide +kernel
  have untold : ¬ Confirmable .empty "k" (.float .nan) := by
    rintro ⟨_, value, _⟩
    have refused : Json.writeFault? true (.float .nan) = some .notFinite := by decide +kernel
    have written := ((Datum.tellable_ofJson _).mp value).2.1
    rw [refused] at written
    cases written
  have grows : MemoryStore.empty.insert (.text "k") (Datum.ofJson (.float .nan)) ≠ .empty := by
    rw [MemoryStore.insert, MemoryStore.empty, Datum.putEntry, ne_eq, MemoryStore.mk.injEq]
    exact List.cons_ne_nil _ _
  have changes := failed_request_changes_store_iff (withStore MemoryStore.operations) rfl
    none settingNaN atStorage rfl ⟨.empty, [], []⟩
  exact ⟨rfl, atStorage, rfl, changes.1.mpr ⟨"k", .float .nan, settingNaN_asks, untold, grows⟩⟩

end PhaseScript.Service
