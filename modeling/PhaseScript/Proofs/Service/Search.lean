import PhaseScript.Proofs.Pattern.Faults
import PhaseScript.Proofs.Service.Storage
/-
What a search of the storage is answered with. The pattern comes from outside, and there are several
ways in which it may be none; the storage tells only one kind of them as the fault of the request,
and everything else that keeps a search from being answered is told as a failure of the service.
-/
set_option autoImplicit false

namespace PhaseScript.Service

/-- A request whose body asks for the entries that a pattern finds. -/
def AsksToFind (request : Incoming) (pattern : Text) : Prop :=
  ∃ call, readBody StorageCall.check request = .ok call ∧
    StorageOperation.ofName? call.operation = some .find ∧ call.key.getD ".*" = pattern

/-- The store that holds a table of JSON values. -/
abbrev storeOf (table : Table Json) : MemoryStore := MemoryStore.ofTable Datum.ofJson table

/-- The entries of a table whose keys a pattern occurs in, in the order of the table. -/
def found (pattern : Pattern) (table : Table Json) : Table Json :=
  table.filter fun entry => pattern.occursIn entry.1

/-- Entries as a search is answered with them. -/
def foundBody (entries : Table Json) : Json :=
  .object [("value", .array (entries.map fun entry =>
    .object [("key", .string entry.1), ("value", entry.2)]))]

/-- What is said of a pattern that is none. -/
def refusalBody (message : Text) : Json :=
  .object [("error", .string "invalid_pattern"), ("error_description", .string message)]

/-- The answer that a search deserves: the entries that are found, or else what is wrong with the
pattern. -/
inductive Answers (pattern : Text) (table : Table Json) : Outgoing → Prop
  | entries {read : Pattern} : Pattern.ofText pattern = .ok read →
    Answers pattern table (.ofJson 200 (foundBody (found read table)))
  | refusal {fault : Pattern.Fault} : Pattern.ofText pattern = .error fault →
    Answers pattern table (.ofJson 400 (refusalBody fault.message))

/-- An entry that can be told in an answer to a search. -/
structure Showable (entry : Text × Json) : Prop where
  key : entry.1.isScalar = true
  nesting : entry.2.nesting ≤ Datum.depthLimit - 3
  written : entry.2.writeFault? true = none
  characters : entry.2.Characters

/-- A search that can be answered as it deserves: every entry that is found can be told, or the
pattern is refused by what reads it, in words that can be told. -/
structure Answerable (pattern : Text) (table : Table Json) : Prop where
  entries : ∀ {read}, Pattern.ofText pattern = .ok read → ∀ entry ∈ found read table, Showable entry
  refusal : ∀ {fault}, Pattern.ofText pattern = .error fault →
    fault.isRefusal = true ∧ fault.message.isScalar = true

theorem isPatternRefusal_raised (fault : Pattern.Fault) :
    isPatternRefusal fault.raised = fault.isRefusal := by
  cases fault <;> rfl

theorem message_raised {fault : Pattern.Fault} (refusal : fault.isRefusal = true) :
    fault.raised.message = fault.message := by
  cases fault with
  | «at» | openWidth => rfl
  | tooManyRepetitions | tooManyDigits | flagClash => cases refusal

theorem datum_entries (entries : Table Json) :
    Datum.ofMembers [("value",
        .list ((entries.map (MemoryStore.entryOf Datum.ofJson)).map StoreEntry.datum))] =
      Datum.ofJson (foundBody entries) := by
  have items : (entries.map (MemoryStore.entryOf Datum.ofJson)).map StoreEntry.datum =
      Datum.ofJsonItems (entries.map fun entry =>
        .object [("key", .string entry.1), ("value", entry.2)]) := by
    induction entries with
    | nil => rfl
    | cons entry rest ih => exact congrArg _ ih
  rw [items]
  rfl

theorem tellable_foundBody (entries : Table Json) :
    (Datum.ofJson (foundBody entries)).Tellable Datum.depthLimit ↔
      ∀ entry ∈ entries, Showable entry := by
  have names : Text.isScalar "key" = true ∧ Text.isScalar "value" = true := ⟨rfl, rfl⟩
  have one (entry : Text × Json) :
      (StoreEntry.datum (MemoryStore.entryOf Datum.ofJson entry)).Tellable
        (Datum.depthLimit - 3 + 1) ↔ Showable entry := by
    rw [StoreEntry.datum, MemoryStore.entryOf, Datum.tellable_ofMembers]
    simp only [List.forall_mem_cons, names, Datum.tellable_text, Datum.tellable_ofJson, true_and,
      List.not_mem_nil, false_implies, implies_true, and_true]
    constructor
    · rintro ⟨key, nesting, written, characters⟩
      exact ⟨key, nesting, written, characters⟩
    · intro shown
      exact ⟨shown.key, shown.nesting, shown.written, shown.characters⟩
  have whole : (Datum.ofMembers [("value", .list
      ((entries.map (MemoryStore.entryOf Datum.ofJson)).map StoreEntry.datum))]).Tellable
        (Datum.depthLimit - 1 + 1) ↔ ∀ entry ∈ entries, Showable entry := by
    rw [Datum.tellable_ofMembers]
    simp only [List.forall_mem_cons, names, true_and, List.not_mem_nil, false_implies, implies_true,
      and_true]
    rw [show Datum.depthLimit - 1 = Datum.depthLimit - 3 + 1 + 1 from rfl, Datum.tellable_list]
    simp only [List.forall_mem_map, one]
  rw [← datum_entries]
  exact whole

theorem tellable_refusalBody (message : Text) :
    (Datum.ofJson (refusalBody message)).Tellable Datum.depthLimit ↔ message.isScalar = true := by
  have names : Text.isScalar "error" = true ∧ Text.isScalar "error_description" = true ∧
      Text.isScalar "invalid_pattern" = true := ⟨rfl, rfl, rfl⟩
  have whole : (Datum.ofMembers [("error", .text "invalid_pattern"),
      ("error_description", .text message)]).Tellable (Datum.depthLimit - 1 + 1) ↔
        message.isScalar = true := by
    rw [Datum.tellable_ofMembers]
    simp only [List.forall_mem_cons, names, Datum.tellable_text, true_and, List.not_mem_nil,
      false_implies, implies_true, and_true]
  exact whole

/-- A value is the body of an answer exactly if it can be told. -/
theorem answerWith_ofJson_iff (status : Nat) (v : Json) :
    answerWith status (Datum.ofJson v) = .ok (.ofJson status v) ↔
      (Datum.ofJson v).Tellable Datum.depthLimit := by
  refine ⟨tellable_of_answerWith status _ _, fun tellable => ?_⟩
  obtain ⟨-, written, characters⟩ := (Datum.tellable_ofJson v).mp tellable
  exact answerWith_of_toJson status _ v tellable.1 (Datum.toJson_ofJson bodyRules v written)
    characters

/-- A call to search, by what its pattern is read as. -/
theorem carryOut_find (call : StorageCall) (table : Table Json)
    (finds : StorageOperation.ofName? call.operation = some .find) :
    call.carryOut MemoryStore.operations (storeOf table) =
      match Pattern.ofText (call.key.getD ".*") with
      | .ok pattern =>
        answered (answerWith 200 (Datum.ofJson (foundBody (found pattern table)))) (storeOf table)
      | .error fault =>
        if fault.isRefusal then
          answered (answerWith 400 (Datum.ofJson (refusalBody fault.message))) (storeOf table)
        else .error fault.raised (storeOf table) := by
  simp only [StorageCall.carryOut, finds, searchStore, MemoryStore.find_run]
  cases read : Pattern.ofText (call.key.getD ".*") with
  | ok pattern =>
    have searched := MemoryStore.search_ofTable Datum.ofJson table pattern
      (Pattern.isText_of_ofText _ pattern read)
    simp only [searched, datum_entries]
    rfl
  | error fault =>
    simp only [isPatternRefusal_raised]
    split
    · next refusal =>
      rw [rpcError, message_raised refusal]
      rfl
    · rfl

section Read

variable {pattern : Text} {table : Table Json} {answer : Outgoing}

theorem answers_of_ok {read : Pattern} (isRead : Pattern.ofText pattern = .ok read) :
    Answers pattern table answer ↔ answer = .ofJson 200 (foundBody (found read table)) := by
  refine ⟨?_, fun same => same ▸ .entries isRead⟩
  rintro (isRead' | isNone)
  · rw [Except.ok.inj (isRead.symm.trans isRead')]
  · cases isRead.symm.trans isNone

theorem answers_of_error {fault : Pattern.Fault} (isNone : Pattern.ofText pattern = .error fault) :
    Answers pattern table answer ↔ answer = .ofJson 400 (refusalBody fault.message) := by
  refine ⟨?_, fun same => same ▸ .refusal isNone⟩
  rintro (isRead | isNone')
  · cases isNone.symm.trans isRead
  · rw [Except.error.inj (isNone.symm.trans isNone')]

theorem answerable_of_ok {read : Pattern} (isRead : Pattern.ofText pattern = .ok read) :
    Answerable pattern table ↔ ∀ entry ∈ found read table, Showable entry := by
  refine ⟨fun able => able.entries isRead, fun all => ⟨fun isRead' => ?_, fun isNone => ?_⟩⟩
  · exact Except.ok.inj (isRead.symm.trans isRead') ▸ all
  · cases isRead.symm.trans isNone

theorem answerable_of_error {fault : Pattern.Fault}
    (isNone : Pattern.ofText pattern = .error fault) :
    Answerable pattern table ↔ fault.isRefusal = true ∧ fault.message.isScalar = true := by
  refine ⟨fun able => able.refusal isNone, fun told => ⟨fun isRead => ?_, fun isNone' => ?_⟩⟩
  · cases isNone.symm.trans isRead
  · exact Except.error.inj (isNone.symm.trans isNone') ▸ told

/-- Where everything can be told, a search can be answered exactly if its pattern is one, or is
refused by what reads it. -/
theorem answerable_iff_of_isScalar (scalar : pattern.isScalar = true)
    (showable : ∀ entry ∈ table, Showable entry) :
    Answerable pattern table ↔
      ∀ fault, Pattern.ofText pattern = .error fault → fault.isRefusal = true := by
  refine ⟨fun able fault isNone => (able.refusal isNone).1, fun refuses =>
    ⟨fun _ entry among => showable entry (List.mem_of_mem_filter among), fun isNone => ?_⟩⟩
  exact ⟨refuses _ isNone, Pattern.isScalar_message_of_ofText pattern scalar _ isNone⟩

end Read

variable (service : Service MemoryStore) (inMemory : service.store = MemoryStore.operations)
  (run : Option (PluginRunner MemoryStore)) (request : Incoming)
  (atStorage : endpoint? service.apiRoot request.path = some .storage)
  (posted : request.method = "POST") (s : ServiceState MemoryStore)

include inMemory atStorage posted in
/-- A call that comes to a body over the same store is answered with it if it can be told, else as a
failure of the service. -/
theorem answer_body {call : StorageCall} (read : readBody StorageCall.check request = .ok call)
    {status : Nat} {v : Json} (carried : call.carryOut MemoryStore.operations s.store =
      answered (answerWith status (Datum.ofJson v)) s.store) :
    let after := service.answer run request s
    ((Datum.ofJson v).Tellable Datum.depthLimit → after.1 = .ofJson status v) ∧
      (¬ (Datum.ofJson v).Tellable Datum.depthLimit → after.1.status = 500) ∧ after.2 = s := by
  intro after
  have ran := answer_call service inMemory run request atStorage posted s call read
  rw [carried] at ran
  cases told : answerWith status (Datum.ofJson v) with
  | ok answer =>
    have tellable := tellable_of_answerWith status _ answer told
    obtain rfl := Except.ok.inj (told.symm.trans ((answerWith_ofJson_iff status v).mpr tellable))
    rw [told, posted] at ran
    refine ⟨fun _ => ?_, fun untellable => absurd tellable untellable, ?_⟩
    · exact congrArg Prod.fst ran
    · exact congrArg Prod.snd ran
  | error raised =>
    have untellable : ¬ (Datum.ofJson v).Tellable Datum.depthLimit := fun tellable =>
      nomatch told.symm.trans ((answerWith_ofJson_iff status v).mpr tellable)
    rw [told] at ran
    refine ⟨fun tellable => absurd tellable untellable, fun _ => ?_, ?_⟩
    · exact (congrArg (fun result => result.1.status) ran).trans
        ((status_forMethod _ _).trans (status_failed _ _ _))
    · exact congrArg Prod.snd ran

include inMemory atStorage posted in
/-- A search is answered as it deserves exactly where it can be, is otherwise told as a failure of
the service, and leaves the state as it is. Where the pattern is made of characters and the entries
can be told, that is where the pattern is one, or is refused by what reads it. -/
theorem search_answers_iff {pattern : Text} (asks : AsksToFind request pattern)
    {table : Table Json} (holds : s.store = storeOf table) :
    let after := service.answer run request s
    (Answers pattern table after.1 ↔ Answerable pattern table) ∧
      (¬ Answerable pattern table → after.1.status = 500) ∧ after.2 = s ∧
      (pattern.isScalar = true → (∀ entry ∈ table, Showable entry) →
        (Answers pattern table after.1 ↔
          ∀ fault, Pattern.ofText pattern = .error fault → fault.isRefusal = true)) := by
  intro after
  -- The last part follows from the first.
  suffices all : (Answers pattern table after.1 ↔ Answerable pattern table) ∧
      (¬ Answerable pattern table → after.1.status = 500) ∧ after.2 = s from
    ⟨all.1, all.2.1, all.2.2, fun scalar showable =>
      all.1.trans (answerable_iff_of_isScalar scalar showable)⟩
  obtain ⟨call, read, finds, rfl⟩ := asks
  have carried := carryOut_find call table finds
  rw [← holds] at carried
  -- A failure of the service is neither of the answers that a search deserves.
  have deserved {status : Nat} {v : Json} (other : status ≠ 500)
      (failed : after.1.status = 500) : after.1 ≠ .ofJson status v := fun same =>
    other ((congrArg Outgoing.status same).symm.trans failed)
  cases isRead : Pattern.ofText (call.key.getD ".*") with
  | ok pattern =>
    rw [isRead] at carried
    obtain ⟨told, failed, same⟩ :=
      answer_body service inMemory run request atStorage posted s read carried
    rw [tellable_foundBody] at told failed
    rw [answers_of_ok isRead, answerable_of_ok isRead]
    exact ⟨⟨fun answers => by_contra fun not => deserved (by decide) (failed not) answers, told⟩,
      failed, same⟩
  | error fault =>
    simp only [isRead] at carried
    rw [answers_of_error isRead, answerable_of_error isRead]
    cases refusal : fault.isRefusal with
    | true =>
      rw [if_pos refusal] at carried
      obtain ⟨told, failed, same⟩ :=
        answer_body service inMemory run request atStorage posted s read carried
      rw [tellable_refusalBody] at told failed
      simp only [true_and]
      exact ⟨⟨fun answers => by_contra fun not => deserved (by decide) (failed not) answers, told⟩,
        failed, same⟩
    | false =>
      rw [if_neg (Bool.not_eq_true _ ▸ refusal)] at carried
      have ran := answer_call service inMemory run request atStorage posted s call read
      rw [carried] at ran
      have failed : after.1.status = 500 :=
        (congrArg (fun result => result.1.status) ran).trans
          ((status_forMethod _ _).trans (status_failed _ _ _))
      have same : after.2 = s := congrArg Prod.snd ran
      simp only [Bool.false_eq_true, false_and, not_false_eq_true, iff_false]
      exact ⟨deserved (by decide) failed, fun _ => failed, same⟩

/-- A request to search by a pattern that repeats a character too many times to be counted. -/
def tooManyTimes : Incoming :=
  ⟨"POST", Rpc.storagePath, [("content-type", jsonType)],
    Utf8.encode "\x7b\"operation\": \"find\", \"key\": \"a\x7b4294967295\x7d\"\x7d"⟩

theorem tooManyTimes_asks : AsksToFind tooManyTimes "a\x7b4294967295\x7d" := by
  have read := Json.read_of_readsAs
    "\x7b\"operation\": \"find\", \"key\": \"a\x7b4294967295\x7d\"\x7d"
    (.object [("operation", .string "find"), ("key", .string "a\x7b4294967295\x7d")])
    (by decide +kernel)
  have members := bodyMembers_of_read tooManyTimes _ _ (by decide +kernel) (by decide +kernel)
    (by decide +kernel) read
  refine ⟨⟨"find", some "a\x7b4294967295\x7d", .null, none⟩, ?_, by decide, rfl⟩
  rw [readBody, members]
  rfl

theorem tooManyTimes_isNone :
    Pattern.ofText "a\x7b4294967295\x7d" = .error .tooManyRepetitions := by
  have told : (match Pattern.ofText "a\x7b4294967295\x7d" with
      | .ok _ => none
      | .error fault => some fault) = some .tooManyRepetitions := by
    decide +kernel
  cases isNone : Pattern.ofText "a\x7b4294967295\x7d" with
  | ok pattern =>
    rw [isNone] at told
    cases told
  | error fault =>
    rw [isNone] at told
    rw [Option.some.inj told]

/-- The pattern is none, and this is told as a failure of the service. -/
theorem tooManyTimes_fails :
    let service := withStore MemoryStore.operations
    let after := service.answer none tooManyTimes ⟨.empty, [], []⟩
    service.store = MemoryStore.operations ∧
      endpoint? service.apiRoot tooManyTimes.path = some .storage ∧ tooManyTimes.method = "POST" ∧
      AsksToFind tooManyTimes "a\x7b4294967295\x7d" ∧
      after.1.status = 500 ∧ ¬ Answers "a\x7b4294967295\x7d" [] after.1 := by
  have atStorage : endpoint? (withStore MemoryStore.operations).apiRoot tooManyTimes.path =
      some .storage := by
    decide +kernel
  have untold : ¬ Answerable "a\x7b4294967295\x7d" [] := fun able =>
    Bool.false_ne_true (able.refusal tooManyTimes_isNone).1
  have empty : MemoryStore.empty = storeOf [] := rfl
  have searched := search_answers_iff (withStore MemoryStore.operations) rfl none tooManyTimes
    atStorage rfl ⟨.empty, [], []⟩ tooManyTimes_asks empty
  exact ⟨rfl, atStorage, rfl, tooManyTimes_asks, searched.2.1 untold, mt searched.1.mp untold⟩

end PhaseScript.Service
