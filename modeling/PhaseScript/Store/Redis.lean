import PhaseScript.Store.Basic
import PhaseScript.Datum.JsonText
import PhaseScript.Json.Reader
/-
The store in a Redis database. The keys of the store begin with the store's own text in the database, so that others
may use the database too; values are kept as JSON texts.
-/
set_option autoImplicit false

namespace PhaseScript

/-- A command to the database. -/
inductive RedisCommand where
  | get (key : Text)
  /-- Sets a text and asks for the one before. -/
  | set (key value : Text)
  | delete (keys : List Text)
  | getAll (keys : List Text)
  /-- Asks for the keys that begin with a text. -/
  | scan (start : Text)
  | ping
  deriving DecidableEq, Repr, Inhabited

/-- A database as a client sees it. -/
structure RedisDatabase where
  entries : List (Text × Text)
  /-- What a scan for the keys that begin with a text yields, given all keys: in any order, a key more than once, or
  one that is gone. -/
  scanOf : List Text → Text → List Text
  isUp : Bool
  /-- The commands so far, the latest first. -/
  commands : List RedisCommand

namespace RedisDatabase

/-- A database whose scans also yield keys that are gone. -/
def withGhosts (entries : List (Text × Text)) (ghosts : List Text) : RedisDatabase :=
  ⟨entries, fun keys start => (keys ++ ghosts).filter fun key => Text.startsWith key start, true, []⟩

def get? (db : RedisDatabase) (key : Text) : Option Text := (db.entries.find? fun entry => entry.1 == key).map (·.2)

/-- Puts a text under a key: in its place if the key is there, else last. -/
def putText (key value : Text) : List (Text × Text) → List (Text × Text)
  | [] => [(key, value)]
  | (k, v) :: rest => if k == key then (k, value) :: rest else (k, v) :: putText key value rest

/-- Notes a command. -/
def note (command : RedisCommand) : Storing RedisDatabase Unit :=
  modify fun db => { db with commands := command :: db.commands }

/-- The text under a key. -/
def get (key : Text) : Storing RedisDatabase (Option Text) := do
  note (.get key)
  return (← EStateM.get).get? key

/-- Sets a text; gives the one before. -/
def set (key value : Text) : Storing RedisDatabase (Option Text) := do
  note (.set key value)
  let db ← EStateM.get
  EStateM.set { db with entries := putText key value db.entries }
  return db.get? key

def delete (keys : List Text) : Storing RedisDatabase Unit := do
  note (.delete keys)
  modify fun db => { db with entries := db.entries.filter fun entry => !keys.contains entry.1 }

/-- The texts under keys, in the order of the keys. -/
def getAll (keys : List Text) : Storing RedisDatabase (List (Option Text)) := do
  note (.getAll keys)
  let db ← EStateM.get
  return keys.map db.get?

def scan (start : Text) : Storing RedisDatabase (List Text) := do
  note (.scan start)
  let db ← EStateM.get
  return db.scanOf (db.entries.map (·.1)) start

def ping : Storing RedisDatabase Bool := do
  note .ping
  return (← EStateM.get).isUp

end RedisDatabase

/-- A store in a Redis database: the text that its keys begin with there. -/
structure RedisStore where
  keyStart : Text
  deriving DecidableEq, Repr, Inhabited

namespace RedisStore

/-- The key in the database. -/
def databaseKey (store : RedisStore) (key : Datum) : Text := store.keyStart ++ key.plain

/-- Reads a text of the database. -/
def decode (raw : Text) : Except Raised Datum :=
  match Json.read raw with
  | .ok value => .ok (Datum.ofJson value)
  | .error refusal => .error (.of refusal.kind (refusal.message raw))

/-- The text that a value is kept as. -/
def textOf (value : Datum) : Except Raised Text :=
  match value.jsonText with
  | .ok t => .ok t
  | .error refusal => .error (.of refusal.kind refusal.message)

/-- The keys of the store, in order. -/
def keys (store : RedisStore) : Storing RedisDatabase (List Text) := do
  let found ← RedisDatabase.scan store.keyStart
  return (found.map fun key => key.drop store.keyStart.length).mergeSort Text.le

/-- The entries of keys and texts, those without a text left out. -/
def decodeAll : List (Text × Option Text) → Except Raised (List StoreEntry)
  | [] => .ok []
  | (_, none) :: rest => decodeAll rest
  | (key, some raw) :: rest => do
    let value ← decode raw
    return ⟨.text key, value⟩ :: (← decodeAll rest)

/-- The keys that a pattern occurs in. A pattern that cannot be searched for in texts ends the search. -/
def matching (pattern : Pattern) : List Text → Except Raised (List Text)
  | [] => .ok []
  | key :: rest => do
    let isFound ← pattern.occursInKey (.text key)
    let found ← matching pattern rest
    return if isFound then key :: found else found

/-- The operations of a store in a Redis database. -/
def operations (store : RedisStore) : KeyValueStore RedisDatabase where
  get key := do
    match ← RedisDatabase.get (store.databaseKey key) with
    | some raw => MonadExcept.ofExcept (decode raw)
    | none => return .none
  set key value := do
    let t ← MonadExcept.ofExcept (textOf value)
    match ← RedisDatabase.set (store.databaseKey key) t with
    | some raw => return some ⟨key, ← MonadExcept.ofExcept (decode raw)⟩
    | none => return none
  remove key := RedisDatabase.delete [store.databaseKey key]
  find pattern := do
    let pattern ← MonadExcept.ofExcept (Pattern.ofDatum pattern)
    let found ← MonadExcept.ofExcept (matching pattern (← store.keys))
    if found.isEmpty then return []
    let texts ← RedisDatabase.getAll (found.map fun key => store.databaseKey (.text key))
    MonadExcept.ofExcept (decodeAll (found.zip texts))
  clear := do
    let found := (← store.keys).map fun key => store.databaseKey (.text key)
    if !found.isEmpty then RedisDatabase.delete found
  ping := RedisDatabase.ping

end RedisStore

end PhaseScript
