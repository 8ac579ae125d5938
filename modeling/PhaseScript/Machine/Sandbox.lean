import PhaseScript.Machine.Modules
import PhaseScript.Machine.Scope
import PhaseScript.Invocation
import PhaseScript.Rpc.Channel
/-
What a script is given: its exports, promises, fetching, its settings, and console and storage where it is bound to a
service. Everything is made anew for each run.
-/
set_option autoImplicit false

namespace PhaseScript.Machine

/-- What a run is given from outside, but for the client for its requests. -/
structure Surroundings where
  environment : Environment
  externalApi : Option ExternalApi
  module : Option Text
  extraModules : List Text
  shelf : ModuleShelf

instance : Inhabited Surroundings := ⟨⟨[], none, none, [], standardShelf⟩⟩

/-- The names of the types and functions that are among the global names too. -/
def convenienceEntries : List (Text × Value) :=
  [TypeName.list, .dict, .set, .tuple, .range, .enumerate, .map, .filter].map typeEntry
    ++ [CoreFunction.len, .min, .max, .sum, .abs, .sorted, .any, .all].map coreEntry

/-- Global names that no script can write. -/
def guardEntries : List (Text × Value) :=
  (["__builtins__", "_getattr_", "_getiter_", "_getitem_", "_iter_unpack_sequence_", "_unpack_sequence_", "_write_",
    "_inplacevar_", "_apply_"] : List Text).map closedEntry ++ [(("__name__" : Text), .text "plugin")]

def calendarTypes : List (Text × Value) := [("datetime", .type .moment), ("date", .type .date), ("time", .type .clock),
  ("timedelta", .type .duration)]

def promiseEntries : List (Text × Value) :=
  [("resolve", .builtin .resolve), ("reject", .builtin .reject), ("all", .builtin .allOf)]

def settingEntries : List (Text × Value) :=
  [("get", .builtin .envGet), ("get_int", .builtin .envInt), ("get_bool", .builtin .envBool)]

def consoleEntries : List (Text × Value) :=
  ("raw", .builtin (.console none)) ::
    (["log", "info", "warn", "error", "debug"] : List Text).map fun name => (name, .builtin (.console (some name)))

def storageEntry (name : Text) (call : StorageCall) : Text × Value := (name, .builtin (.storage call))

def storageEntries : List (Text × Value) := [storageEntry "getItem" .get, storageEntry "setItem" .set,
  storageEntry "removeItem" .remove, storageEntry "findItems" .find, storageEntry "allItems" .items,
  storageEntry "allKeys" .keys, storageEntry "clear" .clear, storageEntry "get_item" .get, storageEntry "set_item" .set,
  storageEntry "remove_item" .remove, storageEntry "find_items" .find, storageEntry "all_items" .items,
  storageEntry "all_keys" .keys]

namespace Run

/-- An object with fixed attributes. -/
def newNamespace (entries : List (Text × Value)) : Run Value := alloc (.namespace entries)

/-- The names for the service, if there is one. -/
def serviceGlobals (hasChannel : Bool) : Run (List (Text × Value)) := do
  if !hasChannel then return []
  let console ← newNamespace consoleEntries
  let storage ← newNamespace storageEntries
  let api ← newNamespace [("console", console), ("storage", storage)]
  return [("host_api", api), ("console", console), ("storage", storage)]

/-- The settings as a dict that cannot be written. -/
def newProcess (environment : Environment) : Run Value := do
  match ← newDict (environment.map fun (name, value) => (.text name, .text value)) with
  | .ref dict => newNamespace [("env", ← alloc (.proxy dict))]
  | v => return v

/-- The settings cannot be written, whoever tries. -/
def writeSetting {α : Type} (view : Value) : Run α := typeErrorOf "'" view "' object does not support item assignment"

/-- The names that a script is given. -/
def contextGlobals (environment : Environment) (hasChannel : Bool) : Run (List (Text × Value)) := do
  let table ← alloc (.dict #[] true)
  let promise ← newNamespace promiseEntries
  let process ← newProcess environment
  let settings ← newNamespace settingEntries
  let service ← serviceGlobals hasChannel
  let own : List (Text × Value) := [("exports", table), ("Promise", promise), ("fetch", .builtin .fetch),
    ("process", process), ("env", settings)]
  return own ++ service

/-- All global names before the script runs. -/
def prepare (s : Surroundings) : Run Unit := do
  let channel := Rpc.Channel.of? s.externalApi s.module
  let reading ← newNamespace [("loads", .builtin .jsonLoads), ("dumps", .builtin .jsonDumps)]
  let context ← contextGlobals s.environment channel.isSome
  let globals := guardEntries ++ [(("json" : Text), reading)] ++ calendarTypes ++ convenienceEntries ++ context
  fun w => .ok () { w with globals, environment := s.environment, channel }
  addModules s.shelf s.extraModules

end Run

/-- The state before a run. -/
def World.start (exchange : Http.Exchange) : World := ⟨#[], [], exchange, [], none, 0, 8, [], .start⟩

end PhaseScript.Machine
