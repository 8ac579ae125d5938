import PhaseScript.Service.Body
import PhaseScript.Store.Basic
import PhaseScript.Datum.JsonText
/-
The storage that the service offers: one operation on its store for each request. What the store raises is told
apart from what is wrong with the request.
-/
set_option autoImplicit false

namespace PhaseScript.Service

inductive StorageOperation where
  | get
  | set
  | remove
  | find
  | clear
  deriving DecidableEq, Repr, Inhabited

namespace StorageOperation

def all : List StorageOperation := [.get, .set, .remove, .find, .clear]

def name : StorageOperation → String
  | .get => "get"
  | .set => "set"
  | .remove => "remove"
  | .find => "find"
  | .clear => "clear"

/-- The operation of a name, in exactly these letters. -/
def ofName? (t : Text) : Option StorageOperation := all.find? fun operation => t.is operation.name

theorem ofName?_name (operation : StorageOperation) : ofName? (Text.ofString operation.name) = some operation := by
  cases operation <;> decide

end StorageOperation

/-- A request to the storage. -/
structure StorageCall where
  operation : Text
  key : Option Text
  value : Json
  options : Option (List (Text × Json))
  deriving Repr, Inhabited

/-- The call that the members of a body describe. -/
def StorageCall.check (members : List (Text × Json)) : Checked StorageCall :=
  ((requiredText members "operation").both ((nullableText members "key").both (nullableMembers members "opts"))).map
    fun (operation, key, options) => ⟨operation, key, (Json.get? members "value").getD .null, options⟩

/-- How values stand in a body: every number is finite, and every character stands as it is. -/
def bodyRules : Datum.JsonRules := ⟨false, false, false, false⟩

/-- An answer with a value as its body, if the value can stand there. -/
def answerWith (status : Nat) (value : Datum) : Except Raised Outgoing :=
  match Datum.jsonTextBy bodyRules .compact value with
  | .error refusal => .error (.of refusal.kind refusal.message)
  | .ok t => match Utf8.encodeStrict t with
    | .ok _ => .ok (.ofJsonText status t)
    | .error fault => .error (.of .unicodeEncodeError fault.message)

/-- What is wrong, in the words of the storage. -/
def rpcError (status : Nat) (error description : Text) : Except Raised Outgoing :=
  answerWith status (Datum.ofMembers [("error", .text error), ("error_description", .text description)])

/-- Whether a raised error says that a pattern is none. -/
def isPatternRefusal (raised : Raised) : Bool := raised.kind == .patternError

/-- A step that leaves the store as it is. -/
def answered {σ : Type} (answer : Except Raised Outgoing) : Storing σ Outgoing := MonadExcept.ofExcept answer

/-- Searches a store; a pattern that is none is told in the answer. -/
def searchStore {σ : Type} (store : KeyValueStore σ) (pattern : Text) : Storing σ Outgoing := fun s =>
  match store.find (.text pattern) s with
  | .ok entries s =>
    answered (answerWith 200 (Datum.ofMembers [("value", .list (entries.map StoreEntry.datum))])) s
  | .error raised s =>
    if isPatternRefusal raised then answered (rpcError 400 "invalid_pattern" raised.message) s else .error raised s

/-- Carries out an operation that is about one key. -/
def onKey {σ : Type} (store : KeyValueStore σ) (operation : StorageOperation) (key : Text) (value : Json) :
    Storing σ Outgoing :=
  match operation with
  | .get => do
    let found ← store.get (.text key)
    answered (answerWith 200 (Datum.ofMembers [("value", found), ("key", .text key)]))
  | .set => do
    let value := Datum.ofJson value
    let before ← store.set (.text key) value
    answered (answerWith 200 (Datum.ofMembers [("key", .text key), ("value", value),
      ("previous", (before.map StoreEntry.datum).getD .none)]))
  | _ => do
    store.remove (.text key)
    return .empty

/-- Carries out a call. -/
def StorageCall.carryOut {σ : Type} (store : KeyValueStore σ) (call : StorageCall) : Storing σ Outgoing :=
  match StorageOperation.ofName? call.operation with
  | none => answered (rpcError 404 "unknown_operation" ("unknown operation '" ++ call.operation ++ "'"))
  | some .clear => do
    store.clear
    return .empty
  | some .find => searchStore store (call.key.getD ".*")
  | some operation =>
    match call.key with
    | none =>
      answered (rpcError 400 "missing_key" ("operation '" ++ Text.ofString operation.name ++ "' requires a key"))
    | some key => onKey store operation key call.value

end PhaseScript.Service
