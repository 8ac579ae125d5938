import PhaseScript.Proofs.Store.Redis
/-
Calls to a store, one after the other, answered from memory and from a database. A call that fails
does not end the sequence.
-/
set_option autoImplicit false

namespace PhaseScript

/-- A call to a store with texts as keys and JSON values. -/
inductive StoreCall where
  | get (key : Text)
  | set (key : Text) (value : Json)
  | remove (key : Text)
  | find (pattern : Text)
  | clear

/-- What a call gives. -/
inductive StoreAnswer where
  | value (d : Datum)
  | previous (entry : Option StoreEntry)
  | done
  | found (entries : List StoreEntry)

namespace StoreCall

/-- Carries a call out on a store. -/
def run {σ : Type} (store : KeyValueStore σ) : StoreCall → Storing σ StoreAnswer
  | .get key => do return .value (← store.get (.text key))
  | .set key value => do return .previous (← store.set (.text key) (Datum.ofJson value))
  | .remove key => do
    store.remove (.text key)
    return .done
  | .find pattern => do return .found (← store.find (.text pattern))
  | .clear => do
    store.clear
    return .done

/-- What a call comes to, and the store after it. -/
def step {σ : Type} (store : KeyValueStore σ) (call : StoreCall) (s : σ) :
    Except Raised StoreAnswer × σ :=
  match call.run store s with
  | .ok answer s => (.ok answer, s)
  | .error raised s => (.error raised, s)

/-- What calls come to in turn, each with the store after it. -/
def trace {σ : Type} (store : KeyValueStore σ) : List StoreCall → σ →
    List (Except Raised StoreAnswer × σ)
  | [], _ => []
  | call :: calls, s => call.step store s :: trace store calls (call.step store s).2

/-- What a call comes to on a table that keeps its keys in the order in which they were first put.
-/
def onTable (table : Table Json) : StoreCall → Except Raised StoreAnswer × Table Json
  | .get key => (.ok (.value (((table.lookup key).map Datum.ofJson).getD .none)), table)
  | .set key value =>
    (.ok (.previous ((table.lookup key).map fun before => ⟨.text key, Datum.ofJson before⟩)),
    table.put key value)
  | .remove key => (.ok .done, table.erase key)
  | .find pattern =>
    match Pattern.ofText pattern with
    | .error fault => (.error fault.raised, table)
    | .ok pattern =>
      (.ok (.found ((table.filter fun entry => pattern.occursIn entry.1).map
      (MemoryStore.entryOf Datum.ofJson))), table)
  | .clear => (.ok .done, [])

/-- The answers of calls in turn on a table. -/
def answersOnTable : List StoreCall → Table Json → List (Except Raised StoreAnswer)
  | [], _ => []
  | call :: calls, table => (call.onTable table).1 :: answersOnTable calls (call.onTable table).2

/-- Each call on the store in memory is a call on its table. -/
theorem step_memory (call : StoreCall) (table : Table Json) :
    call.step MemoryStore.operations (MemoryStore.ofTable Datum.ofJson table) =
      ((call.onTable table).1, MemoryStore.ofTable Datum.ofJson (call.onTable table).2) := by
  cases call with
  | get key =>
    have found := MemoryStore.get?_ofTable Datum.ofJson table key
    simp only [step, run, bind, EStateM.bind, pure, EStateM.pure, MemoryStore.get_run, found,
      onTable]
  | set key value =>
    have found := MemoryStore.get?_ofTable Datum.ofJson table key
    have inserted := MemoryStore.insert_ofTable Datum.ofJson table key value
    simp only [step, run, bind, EStateM.bind, pure, EStateM.pure, MemoryStore.set_run, found,
      inserted, onTable, Option.map_map]
    rfl
  | remove key =>
    have erased := MemoryStore.erase_ofTable Datum.ofJson table key
    simp only [step, run, bind, EStateM.bind, pure, EStateM.pure, MemoryStore.remove_run, erased,
      onTable]
  | find pattern =>
    simp only [step, run, bind, EStateM.bind, pure, EStateM.pure, MemoryStore.find_run, onTable]
    cases read : Pattern.ofText pattern with
    | error fault => rfl
    | ok pattern =>
      have searched := MemoryStore.search_ofTable Datum.ofJson table pattern
        (Pattern.isText_of_ofText _ _ read)
      simp only [searched]
  | clear => rfl

/-- A call that asks to keep a value asks for a JSON value. -/
def Storable : StoreCall → Prop
  | .set _ value => IsJsonValue value
  | _ => True

/-- What two stores come to for a call, where the second gives the entries that it found in the
order of their keys. -/
def SameAnswer : Except Raised StoreAnswer → Except Raised StoreAnswer → Prop
  | .ok (.found entries), .ok (.found sorted) =>
    sorted.Perm entries ∧ sorted.Pairwise fun a b => Text.le a.key.plain b.key.plain = true
  | first, second => first = second

/-- The entries that a search finds by the sorted keys are those of the table. -/
theorem found_perm (table : Table Json) (distinct : table.keys.Nodup) (occurs : Text → Bool)
    (sorted : List Text) (same : sorted.Perm table.keys) :
    ((sorted.filter occurs).filterMap fun key =>
      (table.lookup key).map fun value => (⟨.text key, Datum.ofJson value⟩ : StoreEntry)).Perm
      ((table.filter fun entry => occurs entry.1).map (MemoryStore.entryOf Datum.ofJson)) := by
  refine ((same.filter occurs).filterMap _).trans (List.Perm.of_eq ?_)
  rw [Table.keys, List.filter_map, List.filterMap_map, ← List.filterMap_eq_map]
  refine List.filterMap_congr fun entry among => ?_
  have found := Table.lookup_of_mem table distinct entry.1 entry.2 (List.mem_of_mem_filter among)
  simp only [Function.comp_apply, found, Option.map_some]
  rfl

/-- The entries that a search finds by sorted keys come in the order of the keys. -/
theorem found_sorted (table : Table Json) (sorted : List Text)
    (ordered : sorted.Pairwise fun a b => Text.le a b = true) :
    (sorted.filterMap fun key =>
      (table.lookup key).map fun value => (⟨.text key, Datum.ofJson value⟩ : StoreEntry)).Pairwise
      fun a b => Text.le a.key.plain b.key.plain = true := by
  refine List.pairwise_filterMap.mpr (ordered.imp ?_)
  intro a b le first isFirst second isSecond
  obtain ⟨_, _, rfl⟩ := Option.map_eq_some_iff.mp isFirst
  obtain ⟨_, _, rfl⟩ := Option.map_eq_some_iff.mp isSecond
  exact le

section

variable {store : RedisStore} {start db : RedisDatabase} {table : Table Json}
  (mirrors : Mirrors store start table db)

include mirrors

theorem get_redis (key : Text) :
    (StoreCall.get key).step store.operations db =
      (((StoreCall.get key).onTable table).1, db.noted (.get (store.keyStart ++ key))) := by
  have whole : store.databaseKey (.text key) = store.keyStart ++ key := rfl
  simp only [step, run, RedisStore.operations, bind, EStateM.bind, whole, RedisDatabase.get_run,
    mirrors.own, onTable]
  cases found : table.lookup key with
  | none => rfl
  | some value =>
    simp only [Option.map_some, mirrors.decode_eq found]
    rfl

theorem set_redis (key : Text) (value : Json) (isValue : IsJsonValue value) :
    (StoreCall.set key value).step store.operations db =
      (((StoreCall.set key value).onTable table).1,
        { db.noted (.set (store.keyStart ++ key) (Json.render .spaced value)) with
          entries :=
            Table.put (store.keyStart ++ key) (Json.render .spaced value) db.entries }) := by
  have whole : store.databaseKey (.text key) = store.keyStart ++ key := rfl
  have written := RedisStore.textOf_ofJson value isValue
  simp only [step, run, RedisStore.operations, bind, EStateM.bind, whole, written,
    MonadExcept.ofExcept, pure, EStateM.pure, RedisDatabase.set_run, mirrors.own, onTable]
  cases found : table.lookup key with
  | none => rfl
  | some before =>
    simp only [Option.map_some, mirrors.decode_eq found]
    rfl

/-- A search decodes the texts under the keys that a pattern occurs in, in the order of the keys. -/
theorem find_redis (scans : RedisDatabase.Scans start.scanOf) (pattern : Text) :
    SameAnswer ((StoreCall.find pattern).onTable table).1
        ((StoreCall.find pattern).step store.operations db).1 ∧
      Mirrors store start ((StoreCall.find pattern).onTable table).2
        ((StoreCall.find pattern).step store.operations db).2 := by
  simp only [step, run, RedisStore.operations, Pattern.ofDatum, bind, EStateM.bind, onTable]
  cases read : Pattern.ofText pattern with
  | error fault => exact ⟨rfl, mirrors⟩
  | ok pattern =>
    obtain ⟨sorted, scanned, same, ordered⟩ := mirrors.keys scans
    have matched := RedisStore.matching_eq pattern (Pattern.isText_of_ofText _ _ read) sorted
    have entries := found_perm table mirrors.distinct pattern.occursIn sorted same
    have listed := found_sorted table (sorted.filter pattern.occursIn) (ordered.filter _)
    simp only [MonadExcept.ofExcept, Except.mapError, pure, EStateM.pure, scanned, matched]
    cases none : (sorted.filter pattern.occursIn).isEmpty with
    | true =>
      rw [List.isEmpty_iff.mp none] at entries listed
      exact ⟨⟨entries, listed⟩, mirrors.noted _⟩
    | false =>
      have decoded := (mirrors.noted (.scan store.keyStart)).decodeAll_eq
        (sorted.filter pattern.occursIn)
      have whole : ((sorted.filter pattern.occursIn).map fun key =>
          store.databaseKey (.text key)).map
            (Table.lookup (db.noted (.scan store.keyStart)).entries) =
          (sorted.filter pattern.occursIn).map fun key =>
            Table.lookup (db.noted (.scan store.keyStart)).entries (store.keyStart ++ key) :=
        List.map_map
      simp only [Bool.false_eq_true, if_false, EStateM.bind, RedisDatabase.getAll_run, whole,
        decoded]
      exact ⟨⟨entries, listed⟩, (mirrors.noted _).noted _⟩

/-- All keys of the store are deleted, unless there are none. -/
theorem clear_redis (scans : RedisDatabase.Scans start.scanOf) :
    (StoreCall.clear.step store.operations db).1 = .ok .done ∧
      Mirrors store start [] (StoreCall.clear.step store.operations db).2 := by
  obtain ⟨sorted, scanned, same, -⟩ := mirrors.keys scans
  simp only [step, run, RedisStore.operations, bind, EStateM.bind, scanned]
  cases sorted with
  | nil =>
    obtain rfl : table = [] := List.map_eq_nil_iff.mp (List.nil_perm.mp same)
    exact ⟨rfl, mirrors.noted _⟩
  | cons first rest =>
    have after := (mirrors.noted (.scan store.keyStart)).delete (first :: rest)
    have gone : (table.filter fun entry => !(first :: rest).contains entry.1) = [] := by
      refine List.filter_eq_nil_iff.mpr fun entry among => ?_
      have inside : entry.1 ∈ first :: rest := same.mem_iff.mpr (List.mem_map_of_mem among)
      rw [List.contains_iff_mem.mpr inside]
      exact Bool.false_ne_true
    rw [gone] at after
    exact ⟨rfl, after⟩

/-- Each call on the store in a database answers as the same call on the table that the database
mirrors, and the database mirrors the table after it. -/
theorem step_redis (scans : RedisDatabase.Scans start.scanOf) (call : StoreCall)
    (storable : call.Storable) :
    SameAnswer (call.onTable table).1 (call.step store.operations db).1 ∧
      Mirrors store start (call.onTable table).2 (call.step store.operations db).2 := by
  cases call with
  | get key =>
    rw [get_redis mirrors key]
    exact ⟨rfl, mirrors.noted _⟩
  | set key value =>
    rw [set_redis mirrors key value storable]
    exact ⟨rfl, mirrors.put key value storable _⟩
  | remove key =>
    have only (other : Text) : [key].contains other = (other == key) := by
      rw [Bool.eq_iff_iff]
      simp
    have after := mirrors.delete [key]
    simp only [only] at after
    exact ⟨rfl, after⟩
  | find pattern => exact find_redis mirrors scans pattern
  | clear =>
    obtain ⟨answer, after⟩ := clear_redis mirrors scans
    rw [answer]
    exact ⟨rfl, after⟩

end

/-- Calls in turn on the store in memory are calls in turn on its table. -/
theorem trace_memory (calls : List StoreCall) (table : Table Json) :
    (trace MemoryStore.operations calls (MemoryStore.ofTable Datum.ofJson table)).map (·.1) =
      answersOnTable calls table := by
  induction calls generalizing table with
  | nil => rfl
  | cons call rest ih => rw [trace, List.map_cons, answersOnTable, step_memory, ih]

/-- From a table and a database that mirrors it, the answers from memory and from the database stay
the same, and what the database holds for others stays as it was at the start. -/
theorem trace_redis {store : RedisStore} {start : RedisDatabase}
    (scans : RedisDatabase.Scans start.scanOf) (calls : List StoreCall) (storable : ∀ call ∈ calls,
    call.Storable) (table : Table Json) (db : RedisDatabase)
    (mirrors : Mirrors store start table db) :
    List.Forall₂ (fun inMemory inRedis => SameAnswer inMemory.1 inRedis.1 ∧
        ∀ key, Text.startsWith key store.keyStart = false → inRedis.2.get? key = start.get? key)
      (trace MemoryStore.operations calls (MemoryStore.ofTable Datum.ofJson table))
      (trace store.operations calls db) := by
  induction calls generalizing table db with
  | nil => exact .nil
  | cons call rest ih =>
    obtain ⟨same, after⟩ := step_redis mirrors scans call (storable call List.mem_cons_self)
    rw [trace, trace, step_memory]
    exact .cons ⟨same, after.others⟩
      (ih (fun c among => storable c (List.mem_cons_of_mem call among)) _ _ after)

end StoreCall

end PhaseScript
