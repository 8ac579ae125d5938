import PhaseScript.Store.Memory
import PhaseScript.Store.Redis
/-
Which store the service keeps its entries in. The choice is made once: with a Redis server that answers at the first
attempt to reach it, the entries are kept there, otherwise in memory for as long as the service runs. The service is
ready as long as its store answers and the server, if one is asked for, does too.
-/
set_option autoImplicit false

namespace PhaseScript

inductive BackendKind where
  | memory
  | redis
  deriving DecidableEq, Repr, Inhabited

/-- The store that is asked for, and how its server is reached. -/
structure Backend where
  kind : BackendKind
  redisUrl : Text
  keyStart : Text
  deriving DecidableEq, Repr, Inhabited

/-- A store that was made: its kind, and a number of its own. -/
structure MadeStore where
  kind : BackendKind
  number : Nat
  deriving DecidableEq, Repr, Inhabited

/-- What has been decided so far, and the two places where entries can be. -/
structure BackendState where
  database : RedisDatabase
  memory : MemoryStore
  /-- Whether the one attempt to connect has succeeded. -/
  connection : Option Bool
  /-- The store that was chosen. -/
  choice : Option MadeStore
  /-- How many stores have been made. -/
  made : Nat
  /-- The addresses that were connected to, the oldest first. -/
  connectedTo : List Text

/-- Nothing decided, over a server that is up or not. -/
def BackendState.start (isUp : Bool) : BackendState :=
  ⟨{ RedisDatabase.withGhosts [] [] with isUp }, .empty, none, none, 0, []⟩

/-- The server goes up or down. -/
def BackendState.withServer (isUp : Bool) (s : BackendState) : BackendState :=
  { s with database := { s.database with isUp } }

/-- A step over the state of the backend. -/
abbrev Deciding (α : Type) := StateM BackendState α

namespace Backend

/-- Whether there is a connection to the server. Only the first call tries to make one. -/
def connect (backend : Backend) : Deciding Bool := do
  let s ← get
  match s.connection with
  | some isConnected => return isConnected
  | none =>
    match backend.kind with
    | .memory =>
      set { s with connection := some false }
      return false
    | .redis =>
      let isConnected := s.database.isUp
      set { s with connection := some isConnected, connectedTo := s.connectedTo ++ [backend.redisUrl] }
      return isConnected

/-- Whether the server answers. -/
def pingServer (backend : Backend) : Deciding Bool := do
  let isConnected ← backend.connect
  return isConnected && (← get).database.isUp

/-- The store that entries are kept in. Only the first call makes one. -/
def choose (backend : Backend) : Deciding MadeStore := do
  match (← get).choice with
  | some store => return store
  | none =>
    let isConnected ← match backend.kind with
      | .memory => pure false
      | .redis => backend.connect
    let s ← get
    let store : MadeStore := ⟨if isConnected then .redis else .memory, s.made⟩
    set { s with choice := some store, made := s.made + 1 }
    return store

/-- Whether the store answers. One in memory always does. -/
def checkStorage (backend : Backend) : Deciding Bool := do
  match (← backend.choose).kind with
  | .memory => return true
  | .redis => return (← get).database.isUp

/-- What keeps the service from being ready. -/
def failures (backend : Backend) : Deciding (List Text) := do
  let storage ← backend.checkStorage
  let server ← match backend.kind with
    | .memory => pure true
    | .redis => backend.pingServer
  let parts : List (Text × Bool) := [("storage", storage), ("redis", server)]
  return (parts.filter fun part => !part.2).map (·.1)

/-- Runs a step on the chosen store. -/
def onStore {α : Type} (backend : Backend) (inMemory : Storing MemoryStore α) (inRedis : Storing RedisDatabase α) :
    Storing BackendState α := fun s =>
  match backend.choose s with
  | (⟨.memory, _⟩, s) => match inMemory s.memory with
    | .ok a memory => .ok a { s with memory }
    | .error raised memory => .error raised { s with memory }
  | (⟨.redis, _⟩, s) => match inRedis s.database with
    | .ok a database => .ok a { s with database }
    | .error raised database => .error raised { s with database }

/-- The operations of the store that is chosen. -/
def operations (backend : Backend) : KeyValueStore BackendState :=
  let memory := MemoryStore.operations
  let redis := RedisStore.operations ⟨backend.keyStart⟩
  { get := fun key => backend.onStore (memory.get key) (redis.get key)
    set := fun key value => backend.onStore (memory.set key value) (redis.set key value)
    remove := fun key => backend.onStore (memory.remove key) (redis.remove key)
    find := fun pattern => backend.onStore (memory.find pattern) (redis.find pattern)
    clear := backend.onStore memory.clear redis.clear
    ping := backend.onStore memory.ping redis.ping }

end Backend

end PhaseScript
