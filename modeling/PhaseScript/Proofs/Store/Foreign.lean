import PhaseScript.Proofs.Store.Redis
/-
A store in a database that others write to. A text under a key of the store need not be JSON, and a
scan may yield a key more than once, or one that is gone. What a call that fails leaves behind, and
what a search lists.
-/
set_option autoImplicit false

namespace PhaseScript

namespace RedisDatabase

/-- The database that a step leaves behind, whatever the step comes to. -/
def leftBy {α : Type} : EStateM.Result Raised RedisDatabase α → RedisDatabase
  | .ok _ after => after
  | .error _ after => after

/-- A step that writes nothing. -/
def Reads {α : Type} (step : Storing RedisDatabase α) : Prop :=
  ∀ db, (leftBy (step db)).entries = db.entries

theorem reads_pure {α : Type} (a : α) : Reads (pure a) := fun _ => rfl

theorem reads_ofExcept {α : Type} (outcome : Except Raised α) :
    Reads (MonadExcept.ofExcept outcome) := by
  cases outcome <;> exact fun _ => rfl

theorem Reads.bind {α β : Type} {first : Storing RedisDatabase α}
    {next : α → Storing RedisDatabase β} (reads : Reads first) (further : ∀ a, Reads (next a)) :
    Reads (first >>= next) := by
  intro db
  have here := reads db
  simp only [Bind.bind, EStateM.bind]
  cases ran : first db with
  | error raised after =>
    rw [ran] at here
    exact here
  | ok a after =>
    rw [ran] at here
    exact (further a after).trans here

theorem reads_get (key : Text) : Reads (RedisDatabase.get key) := fun _ => rfl

theorem reads_getAll (keys : List Text) : Reads (RedisDatabase.getAll keys) := fun _ => rfl

theorem reads_scan (start : Text) : Reads (RedisDatabase.scan start) := fun _ => rfl

end RedisDatabase

/-- A call to a store, with any values for keys and patterns and to be kept. -/
inductive StoreRequest where
  | get (key : Datum)
  | set (key value : Datum)
  | remove (key : Datum)
  | find (pattern : Datum)
  | clear

namespace StoreRequest

open RedisDatabase (Reads leftBy)

/-- Carries a call out on a store, for what it does to the store. -/
def run {σ : Type} (store : KeyValueStore σ) : StoreRequest → Storing σ Unit
  | .get key => do let _ ← store.get key
  | .set key value => do let _ ← store.set key value
  | .remove key => store.remove key
  | .find pattern => do let _ ← store.find pattern
  | .clear => store.clear

variable (store : RedisStore)

theorem reads_get (key : Datum) : Reads ((get key).run store.operations) := by
  refine Reads.bind ((RedisDatabase.reads_get _).bind fun found => ?_) fun _ => fun _ => rfl
  cases found with
  | none => exact RedisDatabase.reads_pure _
  | some raw => exact RedisDatabase.reads_ofExcept _

theorem reads_find (pattern : Datum) : Reads ((find pattern).run store.operations) := by
  refine Reads.bind ?_ fun _ => fun _ => rfl
  refine (RedisDatabase.reads_ofExcept _).bind fun pattern => ?_
  refine Reads.bind ?_ fun keys => (RedisDatabase.reads_ofExcept _).bind fun found => ?_
  · exact (RedisDatabase.reads_scan _).bind fun _ => RedisDatabase.reads_pure _
  · split
    · exact RedisDatabase.reads_pure _
    · exact (RedisDatabase.reads_getAll _).bind fun texts => RedisDatabase.reads_ofExcept _

/-- To remove a key and to clear the store never fail. -/
theorem remove_run (key : Datum) (db : RedisDatabase) :
    ∃ after, (remove key).run store.operations db = .ok () after := ⟨_, rfl⟩

theorem clear_run (db : RedisDatabase) :
    ∃ after, clear.run store.operations db = .ok () after := by
  simp only [run, RedisStore.operations, RedisStore.keys, bind, EStateM.bind,
    RedisDatabase.scan_run, pure, EStateM.pure]
  split <;> exact ⟨_, rfl⟩

/-- A value is written before the text that it replaces is read. -/
theorem set_run (key value : Datum) (db : RedisDatabase) :
    (set key value).run store.operations db =
      match RedisStore.textOf value with
      | .error raised => EStateM.Result.error raised db
      | .ok text =>
        let after := { db.noted (.set (store.databaseKey key) text) with
          entries := Table.put (store.databaseKey key) text db.entries }
        match (db.get? (store.databaseKey key)).map RedisStore.decode with
        | some (.error raised) => EStateM.Result.error raised after
        | _ => EStateM.Result.ok () after := by
  simp only [run, RedisStore.operations, bind, EStateM.bind]
  cases RedisStore.textOf value with
  | error raised => rfl
  | ok text =>
    have found : db.get? (store.databaseKey key) =
        Table.lookup db.entries (store.databaseKey key) := rfl
    simp only [MonadExcept.ofExcept, pure, EStateM.pure, RedisDatabase.set_run, found]
    cases Table.lookup db.entries (store.databaseKey key) with
    | none => rfl
    | some before =>
      simp only [Option.map_some]
      cases RedisStore.decode before <;> rfl

/-- A call that fails leaves a change behind exactly if it sets a value that can be written over
another text that cannot be read. -/
theorem raising_changes_entries_iff (request : StoreRequest) (db : RedisDatabase) :
    (∃ raised after, request.run store.operations db = .error raised after ∧
        after.entries ≠ db.entries) ↔
      ∃ key value text before raised, request = .set key value ∧
        RedisStore.textOf value = .ok text ∧
        db.get? (store.databaseKey key) = some before ∧
        RedisStore.decode before = .error raised ∧ before ≠ text := by
  have unchanged {step : Storing RedisDatabase Unit} (reads : Reads step) :
      ¬ ∃ raised after, step db = .error raised after ∧ after.entries ≠ db.entries := by
    rintro ⟨raised, after, ran, changed⟩
    have same := reads db
    rw [ran] at same
    exact changed same
  have finished {step : Storing RedisDatabase Unit} (ends : ∃ after, step db = .ok () after) :
      ¬ ∃ raised after, step db = .error raised after ∧ after.entries ≠ db.entries := by
    rintro ⟨raised, after, ran, changed⟩
    obtain ⟨after', ran'⟩ := ends
    cases ran'.symm.trans ran
  cases request with
  | get key => exact iff_of_false (unchanged (reads_get store key)) (by simp)
  | find pattern => exact iff_of_false (unchanged (reads_find store pattern)) (by simp)
  | remove key => exact iff_of_false (finished (remove_run store key db)) (by simp)
  | clear => exact iff_of_false (finished (clear_run store db)) (by simp)
  | set key value =>
    rw [set_run]
    constructor
    · rintro ⟨raised, after, ran, changed⟩
      cases written : RedisStore.textOf value with
      | error refused =>
        rw [written] at ran
        cases ran
        exact absurd rfl changed
      | ok text =>
        rw [written] at ran
        dsimp only at ran
        split at ran
        · next raised' unread =>
          cases ran
          obtain ⟨before, found, unread⟩ := Option.map_eq_some_iff.mp unread
          refine ⟨key, value, text, before, raised, rfl, written, found, unread, ?_⟩
          rintro rfl
          exact changed ((Table.put_eq_self_iff db.entries _ _).mpr found)
        · cases ran
    · rintro ⟨key', value', text, before, raised, same, written, found, unread, differs⟩
      cases same
      refine ⟨raised, _, by simp only [written, found, Option.map_some, unread]; rfl, ?_⟩
      intro same
      have kept := (Table.put_eq_self_iff db.entries _ _).mp same
      exact differs (Option.some.inj (found.symm.trans kept))

/-- A note of someone else's under a key of the store is gone after a call that has failed. -/
theorem note_is_overwritten :
    let store : RedisStore := ⟨"storage:"⟩
    let db := RedisDatabase.withGhosts [("storage:k", "not json")] []
    ∃ raised after, (set (.text "k") (.bool true)).run store.operations db = .error raised after ∧
      after.entries ≠ db.entries := by
  intro store db
  refine (raising_changes_entries_iff store _ db).mpr ?_
  exact ⟨.text "k", .bool true, "true", "not json", _, rfl, rfl, rfl, rfl, by decide⟩

end StoreRequest

namespace RedisStore

/-- What a scan for the keys of the store yields. -/
def yielded (store : RedisStore) (db : RedisDatabase) : List Text :=
  db.scanOf (Table.keys db.entries) store.keyStart

/-- The text in the database under a key of the store. -/
def textUnder (store : RedisStore) (db : RedisDatabase) (key : Text) : Option Text :=
  Table.lookup db.entries (store.keyStart ++ key)

/-- A scan yields keys of the store only, each that is there at least once; in any order, and keys
that are gone among them. -/
structure Sees (store : RedisStore) (db : RedisDatabase) : Prop where
  own : ∀ key ∈ store.yielded db, Text.startsWith key store.keyStart = true
  all : ∀ key, (store.textUnder db key).isSome = true → store.keyStart ++ key ∈ store.yielded db

/-- The keys that a scan has yielded, in order. -/
def sortedKeys (store : RedisStore) (db : RedisDatabase) : List Text :=
  ((store.yielded db).map fun key => key.drop store.keyStart.length).mergeSort Text.le

variable {store : RedisStore} {db : RedisDatabase}

theorem sortedKeys_pairwise : (store.sortedKeys db).Pairwise fun a b => Text.le a b = true :=
  List.pairwise_mergeSort (fun a b c => Text.le_trans a b c) Text.le_total _

/-- A key is there as often as the scan has yielded it. -/
theorem count_sortedKeys (sees : store.Sees db) (key : Text) :
    (store.sortedKeys db).count key = (store.yielded db).count (store.keyStart ++ key) := by
  rw [sortedKeys, (List.mergeSort_perm _ _).count_eq, List.count, List.countP_map, List.count]
  refine List.countP_congr fun whole among => ?_
  rw [Function.comp_apply, beq_iff_eq, beq_iff_eq]
  constructor
  · rintro rfl
    exact Text.eq_append_of_startsWith whole store.keyStart (sees.own whole among)
  · rintro rfl
    exact List.drop_left

/-- The entry under a key, if its text can be read. -/
def readEntry (store : RedisStore) (db : RedisDatabase) (key : Text) : Option (Text × Datum) :=
  (store.textUnder db key).bind fun raw => (decode raw).toOption.map fun value => (key, value)

/-- Whether a text that is under a key can be read. -/
def Legible (store : RedisStore) (db : RedisDatabase) (key : Text) : Prop :=
  ∀ raw, store.textUnder db key = some raw → ∃ value, decode raw = .ok value

theorem readEntry_of_absent {key : Text} (absent : store.textUnder db key = none) :
    store.readEntry db key = none := by
  rw [readEntry, absent, Option.bind_none]

theorem readEntry_of_decode {key raw : Text} {value : Datum}
    (under : store.textUnder db key = some raw) (reads : decode raw = .ok value) :
    store.readEntry db key = some (key, value) := by
  rw [readEntry, under, Option.bind_some, reads]
  rfl

/-- The texts under keys are read if each of them can be. -/
theorem decodeAll_eq_ok_iff (keys : List Text) (found : List StoreEntry) :
    decodeAll (keys.zip (keys.map (store.textUnder db))) = .ok found ↔
      (∀ key ∈ keys, store.Legible db key) ∧
      found = (keys.filterMap (store.readEntry db)).map (MemoryStore.entryOf id) := by
  induction keys generalizing found with
  | nil =>
    exact ⟨fun same => ⟨List.forall_mem_nil _, (Except.ok.inj same).symm⟩, fun both => both.2 ▸ rfl⟩
  | cons key rest ih =>
    rw [List.map_cons, List.zip_cons_cons, List.forall_mem_cons]
    cases under : store.textUnder db key with
    | none =>
      have legible : store.Legible db key := fun raw there => by cases under.symm.trans there
      rw [decodeAll, ih, List.filterMap_cons_none (readEntry_of_absent under)]
      exact ⟨fun both => ⟨⟨legible, both.1⟩, both.2⟩, fun both => ⟨both.1.2, both.2⟩⟩
    | some raw =>
      rw [decodeAll]
      cases reads : decode raw with
      | error raised =>
        refine iff_of_false (fun same => by cases same) fun both => ?_
        obtain ⟨value, isValue⟩ := both.1.1 raw under
        cases reads.symm.trans isValue
      | ok value =>
        have legible : store.Legible db key := fun raw' there => by
          cases under.symm.trans there
          exact ⟨value, reads⟩
        rw [List.filterMap_cons_some (readEntry_of_decode under reads), List.map_cons]
        cases others : decodeAll (rest.zip (rest.map (store.textUnder db))) with
        | error raised =>
          refine iff_of_false (fun same => by cases same) fun both => ?_
          cases others.symm.trans ((ih _).mpr ⟨both.1.2, rfl⟩)
        | ok entries =>
          obtain ⟨allLegible, rfl⟩ := (ih entries).mp others
          exact ⟨fun same => ⟨⟨legible, allLegible⟩, (Except.ok.inj same).symm⟩,
            fun both => congrArg Except.ok both.2.symm⟩

/-- The keys that a pattern occurs in, as a search asks for them. -/
def asked (store : RedisStore) (db : RedisDatabase) (pattern : Pattern) : List Text :=
  (store.sortedKeys db).filter pattern.occursIn

/-- The entries under those keys. -/
def listed (store : RedisStore) (db : RedisDatabase) (pattern : Pattern) : Table Datum :=
  (store.asked db pattern).filterMap (store.readEntry db)

/-- A search ends well if the text under each key that it asks for can be read. -/
theorem find_eq_ok_iff {t : Text} {pattern : Pattern} (read : Pattern.ofText t = .ok pattern)
    (found : List StoreEntry) :
    (∃ after, store.operations.find (.text t) db = .ok found after) ↔
      (∀ key ∈ store.asked db pattern, store.Legible db key) ∧
      found = (store.listed db pattern).map (MemoryStore.entryOf id) := by
  rw [listed, ← decodeAll_eq_ok_iff]
  have matched : matching pattern (store.sortedKeys db) = .ok (store.asked db pattern) :=
    matching_eq pattern (Pattern.isText_of_ofText _ _ read) _
  have scanned : store.keys db = .ok (store.sortedKeys db) (db.noted (.scan store.keyStart)) := rfl
  simp only [operations, Pattern.ofDatum, bind, EStateM.bind, read, MonadExcept.ofExcept,
    Except.mapError, pure, EStateM.pure, scanned, matched]
  cases none : (store.asked db pattern).isEmpty with
  | true =>
    rw [List.isEmpty_iff.mp none]
    constructor
    · rintro ⟨after, same⟩
      cases same
      rfl
    · intro same
      cases same
      exact ⟨_, rfl⟩
  | false =>
    have under : ((store.asked db pattern).map fun key => store.databaseKey (.text key)).map
          (Table.lookup (db.noted (.scan store.keyStart)).entries) =
        (store.asked db pattern).map (store.textUnder db) := List.map_map
    simp only [Bool.false_eq_true, if_false, EStateM.bind, RedisDatabase.getAll_run, under]
    cases decodeAll ((store.asked db pattern).zip
        ((store.asked db pattern).map (store.textUnder db))) with
    | error raised =>
      refine iff_of_false ?_ fun same => by cases same
      rintro ⟨after, same⟩
      cases same
    | ok entries =>
      constructor
      · rintro ⟨after, same⟩
        cases same
        rfl
      · intro same
        cases same
        exact ⟨_, rfl⟩

/-- A key that has a text is asked for if the pattern occurs in it. -/
theorem mem_asked (sees : store.Sees db) (pattern : Pattern) (key : Text)
    (there : (store.textUnder db key).isSome = true) :
    key ∈ store.asked db pattern ↔ pattern.occursIn key = true := by
  rw [asked, List.mem_filter]
  refine ⟨And.right, fun occurs => ⟨?_, occurs⟩⟩
  rw [← List.count_pos_iff, count_sortedKeys sees, List.count_pos_iff]
  exact sees.all key there

/-- The texts that a search asks for can be read if all can be that are under keys which the pattern
occurs in. -/
theorem legible_asked_iff (sees : store.Sees db) (pattern : Pattern) :
    (∀ key ∈ store.asked db pattern, store.Legible db key) ↔
      ∀ key, pattern.occursIn key = true → store.Legible db key := by
  constructor
  · intro legible key occurs raw under
    have there : (store.textUnder db key).isSome = true := by rw [under]; rfl
    exact legible key ((mem_asked sees pattern key there).mpr occurs) raw under
  · intro legible key among
    exact legible key (List.mem_filter.mp among).2

theorem eq_of_readEntry {key : Text} {entry : Text × Datum}
    (isEntry : store.readEntry db key = some entry) :
    entry.1 = key ∧ ∃ raw, store.textUnder db key = some raw ∧ decode raw = .ok entry.2 := by
  obtain ⟨raw, under, shown⟩ := Option.bind_eq_some_iff.mp isEntry
  obtain ⟨value, reads, rfl⟩ := Option.map_eq_some_iff.mp shown
  refine ⟨rfl, raw, under, ?_⟩
  cases decoded : decode raw with
  | error raised =>
    rw [decoded] at reads
    cases reads
  | ok value' =>
    rw [decoded] at reads
    rw [Option.some.inj reads]

/-- Where every text can be read, the entries that are listed are those whose keys have one. -/
theorem keys_filterMap_readEntry (keys : List Text) (legible : ∀ key ∈ keys, store.Legible db key) :
    Table.keys (keys.filterMap (store.readEntry db)) =
      keys.filter fun key => (store.textUnder db key).isSome := by
  induction keys with
  | nil => rfl
  | cons key rest ih =>
    rw [List.forall_mem_cons] at legible
    cases under : store.textUnder db key with
    | none =>
      rw [List.filterMap_cons_none (readEntry_of_absent under), ih legible.2, List.filter_cons,
        under]
      rfl
    | some raw =>
      obtain ⟨value, reads⟩ := legible.1 raw under
      rw [List.filterMap_cons_some (readEntry_of_decode under reads), Table.keys, List.map_cons,
        ← Table.keys, ih legible.2, List.filter_cons, under]
      rfl

/-- Each entry is listed as often as the scan yields its key. -/
theorem count_keys_listed (sees : store.Sees db) (pattern : Pattern)
    (legible : ∀ key ∈ store.asked db pattern, store.Legible db key) (key : Text) :
    (store.listed db pattern).keys.count key =
      if pattern.occursIn key && (store.textUnder db key).isSome
      then (store.yielded db).count (store.keyStart ++ key) else 0 := by
  rw [listed, keys_filterMap_readEntry _ legible, asked, List.filter_filter]
  split
  · next listed =>
    rw [Bool.and_comm] at listed
    refine (List.count_filter ?_).trans (count_sortedKeys sees key)
    exact listed
  · next unlisted =>
    rw [List.count_eq_zero]
    intro among
    rw [Bool.and_comm] at unlisted
    exact unlisted (List.mem_filter.mp among).2

theorem pairwise_keys_listed (pattern : Pattern)
    (legible : ∀ key ∈ store.asked db pattern, store.Legible db key) :
    (store.listed db pattern).keys.Pairwise fun a b => Text.le a b = true := by
  rw [listed, keys_filterMap_readEntry _ legible, asked]
  exact (sortedKeys_pairwise.filter _).filter _

theorem mem_listed (pattern : Pattern) (entry : Text × Datum)
    (among : entry ∈ store.listed db pattern) :
    ∃ raw, store.textUnder db entry.1 = some raw ∧ decode raw = .ok entry.2 := by
  obtain ⟨key, -, isEntry⟩ := List.mem_filterMap.mp among
  obtain ⟨rfl, holds⟩ := eq_of_readEntry isEntry
  exact holds

/-- The entries whose keys a pattern occurs in, each once and in the order of keys, with what their
texts read as. -/
structure ListsOnce (store : RedisStore) (db : RedisDatabase) (pattern : Pattern)
    (table : Table Datum) : Prop where
  increasing : table.keys.Pairwise fun a b => Text.le a b = true ∧ a ≠ b
  keys : ∀ key, key ∈ table.keys ↔
    pattern.occursIn key = true ∧ (store.textUnder db key).isSome = true
  values : ∀ entry ∈ table,
    ∃ raw, store.textUnder db entry.1 = some raw ∧ decode raw = .ok entry.2

/-- The entries of a search are listed once each exactly if the scan yields none of their keys
twice. -/
theorem listsOnce_listed_iff (sees : store.Sees db) (pattern : Pattern)
    (legible : ∀ key ∈ store.asked db pattern, store.Legible db key) :
    store.ListsOnce db pattern (store.listed db pattern) ↔
      ∀ key, pattern.occursIn key = true → (store.textUnder db key).isSome = true →
        (store.yielded db).count (store.keyStart ++ key) = 1 := by
  have counted := count_keys_listed sees pattern legible
  constructor
  · intro lists key occurs there
    have distinct : (store.listed db pattern).keys.Nodup := lists.increasing.imp And.right
    have once := List.count_eq_one_of_mem distinct ((lists.keys key).mpr ⟨occurs, there⟩)
    rwa [counted key, occurs, there, Bool.and_self, if_pos rfl] at once
  · intro once
    have isKey (key : Text) : key ∈ (store.listed db pattern).keys ↔
        pattern.occursIn key = true ∧ (store.textUnder db key).isSome = true := by
      rw [← List.count_pos_iff, counted key]
      split
      · next listed =>
        have both := Bool.and_eq_true_iff.mp listed
        exact iff_of_true (by rw [once key both.1 both.2]; exact Nat.one_pos) both
      · next unlisted =>
        exact iff_of_false (Nat.lt_irrefl 0) fun both => unlisted (Bool.and_eq_true_iff.mpr both)
    have distinct : (store.listed db pattern).keys.Nodup := by
      rw [List.nodup_iff_count_le_one]
      intro key
      rw [counted key]
      split
      · next listed =>
        have both := Bool.and_eq_true_iff.mp listed
        exact (once key both.1 both.2).le
      · exact Nat.zero_le 1
    exact ⟨(pairwise_keys_listed pattern legible).and distinct, isKey, mem_listed pattern⟩

theorem entryOf_injective : Function.Injective (MemoryStore.entryOf (id : Datum → Datum)) := by
  rintro ⟨key, value⟩ ⟨key', value'⟩ same
  cases same
  rfl

/-- A search lists every entry whose key its pattern occurs in once, in the order of keys, exactly
if the pattern can be read, and so can each of their texts, and the scan yields none of their keys
twice. -/
theorem find_listsOnce_iff (sees : store.Sees db) (t : Text) :
    (∃ pattern table after, Pattern.ofText t = .ok pattern ∧
        store.operations.find (.text t) db = .ok (table.map (MemoryStore.entryOf id)) after ∧
        store.ListsOnce db pattern table) ↔
      ∃ pattern, Pattern.ofText t = .ok pattern ∧
        ∀ key raw, pattern.occursIn key = true → store.textUnder db key = some raw →
          (∃ value, decode raw = .ok value) ∧
          (store.yielded db).count (store.keyStart ++ key) = 1 := by
  constructor
  · rintro ⟨pattern, table, after, read, found, lists⟩
    obtain ⟨legible, same⟩ := (find_eq_ok_iff read _).mp ⟨after, found⟩
    obtain rfl := List.map_injective_iff.mpr entryOf_injective same
    have once := (listsOnce_listed_iff sees pattern legible).mp lists
    refine ⟨pattern, read, fun key raw occurs under => ⟨?_, ?_⟩⟩
    · exact (legible_asked_iff sees pattern).mp legible key occurs raw under
    · exact once key occurs (by rw [under]; rfl)
  · rintro ⟨pattern, read, holds⟩
    have legible := (legible_asked_iff sees pattern).mpr fun key occurs raw under =>
      (holds key raw occurs under).1
    obtain ⟨after, found⟩ := (find_eq_ok_iff read _).mpr ⟨legible, rfl⟩
    refine ⟨pattern, _, after, read, found, (listsOnce_listed_iff sees pattern legible).mpr ?_⟩
    intro key occurs there
    obtain ⟨raw, under⟩ := Option.isSome_iff_exists.mp there
    exact (holds key raw occurs under).2

/-- A key that a scan yields twice is listed twice. -/
theorem repeatedKey_not_listsOnce :
    let store : RedisStore := ⟨"storage:"⟩
    let db := RedisDatabase.withGhosts [("storage:a", "1")] ["storage:a", "storage:b"]
    store.Sees db ∧ ¬ ∃ pattern table after, Pattern.ofText ".*" = .ok pattern ∧
      store.operations.find (.text ".*") db = .ok (table.map (MemoryStore.entryOf id)) after ∧
      store.ListsOnce db pattern table := by
  intro store db
  have yields : store.yielded db = ["storage:a", "storage:a", "storage:b"] := by decide
  have sees : store.Sees db := by
    refine ⟨by rw [yields]; decide, fun key there => ?_⟩
    rw [textUnder, Table.lookup_isSome] at there
    obtain same := List.mem_singleton.mp there
    rw [same, yields]
    decide
  refine ⟨sees, fun found => ?_⟩
  obtain ⟨pattern, read, holds⟩ := (find_listsOnce_iff sees ".*").mp found
  have occurs : pattern.occursIn "a" = true := by
    have isRead : (Pattern.ofText ".*").toOption.any (fun p => p.occursIn "a") = true := by
      decide +kernel
    rw [read] at isRead
    exact isRead
  have once := (holds "a" "1" occurs rfl).2
  rw [yields] at once
  exact absurd once (by decide)

end RedisStore

end PhaseScript
