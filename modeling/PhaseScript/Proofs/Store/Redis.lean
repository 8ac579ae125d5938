import PhaseScript.Proofs.Datum.JsonText
import PhaseScript.Proofs.Store.Memory
import PhaseScript.Proofs.Text.Basic
import PhaseScript.Store.Redis
/-
The store in a database beside the store in memory. Both hold the same table: in memory it stands as
it is, in the database under keys that begin with the text of the store, each value as its JSON
text. Every operation keeps this, and so the two give the same answers, entries of a search apart,
which come in another order.
-/
set_option autoImplicit false

namespace PhaseScript

/-- A JSON value: what some JSON text reads as, with finite numbers and texts of characters. -/
structure IsJsonValue (v : Json) : Prop where
  read : ∃ t, Json.read t = .ok v
  proper : v.Proper

theorem IsJsonValue.limited {v : Json} (value : IsJsonValue v) : v.Limited ∧
    v.nesting ≤ Json.maxDepth := by
  obtain ⟨t, accepted⟩ := value.read
  exact Json.held_of_read t v accepted

namespace RedisStore

/-- A JSON value is kept as its text. -/
theorem textOf_ofJson (v : Json) (value : IsJsonValue v) : textOf (Datum.ofJson v) =
    .ok (Json.render .spaced v) := by
  obtain ⟨limited, deep⟩ := value.limited
  have text : (Datum.ofJson v).jsonText = .ok (Json.render .spaced v) :=
    Datum.jsonTextBy_ofJson .usual .spaced v rfl
    (Json.writeFault?_of_limited v limited value.proper) deep
  rw [textOf, text]

/-- The text that a JSON value is kept as reads as the value. -/
theorem decode_render (v : Json) (value : IsJsonValue v) :
    decode (Json.render .spaced v) = .ok (Datum.ofJson v) := by
  obtain ⟨limited, deep⟩ := value.limited
  rw [decode, Json.read_render_of_limited .spaced Json.Style.spaced_lawful v limited value.proper
    deep]

/-- A pattern for texts picks the keys that it occurs in. -/
theorem matching_eq (pattern : Pattern) (forText : pattern.isText = true) (keys : List Text) :
    matching pattern keys = .ok (keys.filter pattern.occursIn) := by
  induction keys with
  | nil => rfl
  | cons key rest ih =>
    rw [matching, ih, List.filter_cons]
    simp only [Pattern.occursInKey, forText, if_true, bind, Except.bind, pure, Except.pure]

end RedisStore

namespace RedisDatabase

/-- The database after a command that changes nothing. -/
def noted (db : RedisDatabase) (command : RedisCommand) : RedisDatabase :=
    { db with commands := command :: db.commands }

theorem putText_eq_put (key value : Text) (entries : List (Text × Text)) :
    putText key value entries = Table.put key value entries := by
  induction entries with
  | nil => rfl
  | cons entry rest ih =>
    obtain ⟨k, v⟩ := entry
    rw [putText, Table.put, ih]

theorem get_run (db : RedisDatabase) (key : Text) :
    RedisDatabase.get key db = .ok (Table.lookup db.entries key) (db.noted (.get key)) := rfl

theorem set_run (db : RedisDatabase) (key value : Text) :
    RedisDatabase.set key value db = .ok (Table.lookup db.entries key)
      { db.noted (.set key value) with entries := Table.put key value db.entries } := by
  rw [← putText_eq_put]
  rfl

theorem getAll_run (db : RedisDatabase) (keys : List Text) :
    RedisDatabase.getAll keys db = .ok (keys.map (Table.lookup db.entries))
    (db.noted (.getAll keys)) := rfl

theorem scan_run (db : RedisDatabase) (start : Text) :
    RedisDatabase.scan start db = .ok (db.scanOf (Table.keys db.entries) start)
    (db.noted (.scan start)) := rfl

/-- Scans yield each of the keys that begin with a text once. -/
def Scans (scanOf : List Text → Text → List Text) : Prop :=
  ∀ (keys : List Text) (start : Text), keys.Nodup →
  (scanOf keys start).Perm (keys.filter (Text.startsWith · start))

end RedisDatabase

theorem Text.startsWith_append (start t : Text) : Text.startsWith (start ++ t) start = true := by
  rw [Text.startsWith, List.isPrefixOf_iff_prefix]
  exact List.prefix_append start t

theorem Text.eq_append_of_startsWith (t start : Text) (starts : Text.startsWith t start = true) :
    t = start ++ t.drop start.length := by
  rw [Text.startsWith, List.isPrefixOf_iff_prefix] at starts
  obtain ⟨rest, rfl⟩ := starts
  rw [List.drop_left]

/-- A database that holds a table for a store, and beside it what another database held under other
keys. -/
structure Mirrors (store : RedisStore) (start : RedisDatabase) (table : Table Json)
    (db : RedisDatabase) : Prop where
  values : ∀ entry ∈ table, IsJsonValue entry.2
  distinct : table.keys.Nodup
  databaseKeys : (Table.keys db.entries).Nodup
  own : ∀ key, Table.lookup db.entries (store.keyStart ++ key) =
    (table.lookup key).map (Json.render .spaced)
  others : ∀ key, Text.startsWith key store.keyStart = false → db.get? key = start.get? key
  scanOf : db.scanOf = start.scanOf

namespace Mirrors

variable {store : RedisStore} {start db : RedisDatabase} {table : Table Json}

theorem noted (mirrors : Mirrors store start table db) (command : RedisCommand) :
    Mirrors store start table (db.noted command) :=
  ⟨mirrors.values, mirrors.distinct, mirrors.databaseKeys, mirrors.own, mirrors.others,
  mirrors.scanOf⟩

/-- Keys that begin with the text of the store are no others. -/
theorem own_ne_other (key other : Text) (apart : Text.startsWith other store.keyStart = false) :
    ¬ store.keyStart ++ key = other := by
  rintro rfl
  rw [Text.startsWith_append] at apart
  cases apart

theorem put (mirrors : Mirrors store start table db) (key : Text) (value : Json)
    (isValue : IsJsonValue value) (command : RedisCommand) :
    Mirrors store start (table.put key value) { db.noted command with
      entries := Table.put (store.keyStart ++ key) (Json.render .spaced value) db.entries } where
  values := Table.forall_put IsJsonValue table key value isValue mirrors.values
  distinct := Table.nodup_put table key value mirrors.distinct
  databaseKeys := Table.nodup_put db.entries _ _ mirrors.databaseKeys
  own other := by
    rw [Table.lookup_put, Table.lookup_put, mirrors.own]
    by_cases same : key = other
    · simp [same]
    · have apart : ¬ store.keyStart ++ key = store.keyStart ++ other := by simpa using same
      simp [same]
  others other apart := by
    have differs := own_ne_other key other apart
    rw [← mirrors.others other apart]
    change Table.lookup (Table.put _ _ db.entries) other = Table.lookup db.entries other
    rw [Table.lookup_put, if_neg (by simpa using differs)]
  scanOf := mirrors.scanOf

/-- Keys are dropped from both at once. -/
theorem delete (mirrors : Mirrors store start table db) (keys : List Text) :
    let deleted := keys.map (store.keyStart ++ ·)
    Mirrors store start (table.filter fun entry => !keys.contains entry.1)
      { db.noted (.delete deleted) with
        entries := db.entries.filter fun entry => !deleted.contains entry.1 } where
  values entry among := mirrors.values entry (List.mem_of_mem_filter among)
  distinct := Table.nodup_filter table _ mirrors.distinct
  databaseKeys := Table.nodup_filter db.entries _ mirrors.databaseKeys
  own key := by
    have same : (keys.map (store.keyStart ++ ·)).contains (store.keyStart ++ key) =
        keys.contains key := by
      rw [Bool.eq_iff_iff]
      simp
    change Table.lookup (db.entries.filter fun entry => !List.contains _ entry.1) _ = _
    rw [Table.lookup_filter db.entries (fun k => !List.contains _ k),
      Table.lookup_filter table (fun k => !keys.contains k), mirrors.own, same]
    split <;> rfl
  others key apart := by
    have absent : (keys.map (store.keyStart ++ ·)).contains key = false := by
      rw [← Bool.not_eq_true, List.contains_iff_mem, List.mem_map]
      rintro ⟨inside, -, same⟩
      exact own_ne_other inside key apart same
    rw [← mirrors.others key apart]
    change Table.lookup (db.entries.filter fun entry => !List.contains _ entry.1) key =
      Table.lookup db.entries key
    rw [Table.lookup_filter db.entries (fun k => !List.contains _ k), absent]
    rfl
  scanOf := mirrors.scanOf

/-- The keys of the store are those of the table, in the order of texts. -/
theorem keys (mirrors : Mirrors store start table db) (scans : RedisDatabase.Scans start.scanOf) :
    ∃ found : List Text, store.keys db = .ok found (db.noted (.scan store.keyStart)) ∧
        found.Perm table.keys ∧
      found.Pairwise fun a b => Text.le a b = true := by
  have scanned := scans (Table.keys db.entries) store.keyStart mirrors.databaseKeys
  rw [← mirrors.scanOf] at scanned
  generalize shown : db.scanOf (Table.keys db.entries) store.keyStart = yielded at scanned
  refine ⟨(yielded.map fun key => key.drop store.keyStart.length).mergeSort Text.le, ?_, ?_, ?_⟩
  · rw [← shown]
    rfl
  · refine (List.mergeSort_perm _ _).trans ((scanned.map _).trans ?_)
    refine (List.perm_ext_iff_of_nodup ?_ mirrors.distinct).mpr fun key => ?_
    · refine List.Nodup.map_on ?_ (mirrors.databaseKeys.filter _)
      intro a first b second same
      rw [Text.eq_append_of_startsWith a store.keyStart (List.mem_filter.mp first).2,
        Text.eq_append_of_startsWith b store.keyStart (List.mem_filter.mp second).2, same]
    · have here : key ∈ table.keys ↔ store.keyStart ++ key ∈ Table.keys db.entries := by
        rw [← Table.lookup_isSome, ← Table.lookup_isSome, mirrors.own, Option.isSome_map]
      rw [here, List.mem_map]
      constructor
      · rintro ⟨whole, among, rfl⟩
        obtain ⟨inside, starts⟩ := List.mem_filter.mp among
        rwa [← Text.eq_append_of_startsWith whole store.keyStart starts]
      · intro inside
        exact ⟨_, List.mem_filter.mpr ⟨inside, Text.startsWith_append _ _⟩, List.drop_left⟩
  · exact List.pairwise_mergeSort (fun a b c => Text.le_trans a b c) Text.le_total _

/-- The text under a key is decoded to the value of the table. -/
theorem decode_eq (mirrors : Mirrors store start table db) {key : Text} {value : Json}
    (found : table.lookup key = some value) :
    RedisStore.decode (Json.render .spaced value) = .ok (Datum.ofJson value) :=
  RedisStore.decode_render value (mirrors.values _ (Table.mem_of_lookup table key value found))

/-- The texts under keys are decoded to the values of the table. -/
theorem decodeAll_eq (mirrors : Mirrors store start table db) (keys : List Text) :
    RedisStore.decodeAll
        (keys.zip (keys.map fun key => Table.lookup db.entries (store.keyStart ++ key))) =
      .ok (keys.filterMap fun key => (table.lookup key).map fun value =>
      ⟨.text key, Datum.ofJson value⟩) := by
  induction keys with
  | nil => rfl
  | cons key rest ih =>
    rw [List.map_cons, List.zip_cons_cons, mirrors.own, List.filterMap_cons]
    cases found : table.lookup key with
    | none => exact ih
    | some value =>
      rw [Option.map_some, Option.map_some, RedisStore.decodeAll, mirrors.decode_eq found, ih]
      rfl

end Mirrors

end PhaseScript
