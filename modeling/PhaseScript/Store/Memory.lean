import PhaseScript.Store.Basic
import PhaseScript.Datum.Equal
/-
The store in memory: a table in the order in which its keys were first put. Putting a value under a key that is there
keeps its place; a key that was removed and comes back stands last.
-/
set_option autoImplicit false

namespace PhaseScript

/-- A store in memory. -/
structure MemoryStore where
  entries : List (Datum × Datum)
  deriving Inhabited, Repr

namespace MemoryStore

def empty : MemoryStore := ⟨[]⟩

/-- The value under a key. -/
def get? (store : MemoryStore) (key : Datum) : Option Datum :=
  (store.entries.find? fun entry => Datum.eq entry.1 key).map (·.2)

/-- The store with a value under a key. -/
def insert (store : MemoryStore) (key value : Datum) : MemoryStore := ⟨Datum.putEntry key value store.entries⟩

/-- The store without a key. -/
def erase (store : MemoryStore) (key : Datum) : MemoryStore :=
  ⟨store.entries.filter fun entry => !Datum.eq entry.1 key⟩

/-- The entries whose keys a pattern occurs in. A key that cannot be searched ends the search. -/
def search (pattern : Pattern) : List (Datum × Datum) → Except Raised (List StoreEntry)
  | [] => .ok []
  | (key, value) :: rest => do
    let isFound ← pattern.occursInKey key
    let found ← search pattern rest
    return if isFound then ⟨key, value⟩ :: found else found

/-- Refuses what cannot be a key. -/
def demandKey (key : Datum) : Storing MemoryStore Unit :=
  match key.unhashable? with
  | some name => throw (Datum.unhashable name)
  | none => return ()

/-- The operations of a store in memory. -/
def operations : KeyValueStore MemoryStore where
  get key := do
    demandKey key
    return ((← EStateM.get).get? key).getD .none
  set key value := do
    demandKey key
    let store ← EStateM.get
    EStateM.set (store.insert key value)
    return (store.get? key).map fun before => ⟨key, before⟩
  remove key := do
    -- Nothing is looked up in an empty store.
    if !(← EStateM.get).entries.isEmpty then
      demandKey key
      modify fun store => store.erase key
  find pattern := do
    let pattern ← MonadExcept.ofExcept (Pattern.ofDatum pattern)
    MonadExcept.ofExcept (search pattern (← EStateM.get).entries)
  clear := EStateM.set empty
  ping := return true

end MemoryStore

end PhaseScript
