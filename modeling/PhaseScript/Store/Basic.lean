import PhaseScript.Failure
import PhaseScript.Pattern.Search
/-
Stores of values under keys, as those who use them see them. An operation may fail, and what it had changed by then
stays changed. A key or a pattern to search for may be any value; only texts and octets can be searched, and octets
only for patterns that are given as octets.
-/
set_option autoImplicit false

namespace PhaseScript

/-- An entry of a store. -/
structure StoreEntry where
  key : Datum
  value : Datum
  deriving Inhabited, Repr

/-- The entry as a value. -/
def StoreEntry.datum (entry : StoreEntry) : Datum := Datum.ofMembers [("key", entry.key), ("value", entry.value)]

/-- A step over a store that may fail. -/
abbrev Storing (σ α : Type) := EStateM Raised σ α

/-- The operations of a store that is kept as a value of `σ`. -/
structure KeyValueStore (σ : Type) where
  /-- The value under a key, or none. -/
  get : Datum → Storing σ Datum
  /-- Puts a value under a key; gives the entry that was there. -/
  set : Datum → Datum → Storing σ (Option StoreEntry)
  remove : Datum → Storing σ Unit
  /-- The entries whose keys a pattern occurs in. -/
  find : Datum → Storing σ (List StoreEntry)
  clear : Storing σ Unit
  /-- Whether the store can be reached. -/
  ping : Storing σ Bool

namespace Datum

mutual

/-- The name of the type of the first part that keeps a value from being a key. -/
def unhashable? : Datum → Option Text
  | .list _ => some "list"
  | .dict _ => some "dict"
  | .set false _ => some "set"
  | .tuple items => firstUnhashable? items
  | _ => Option.none

def firstUnhashable? : List Datum → Option Text
  | [] => Option.none
  | item :: rest => (unhashable? item).or (firstUnhashable? rest)

end

/-- The complaint about a value that cannot be a key. -/
def unhashable (typeName : Text) : Raised := .of .typeError ("unhashable type: '" ++ typeName ++ "'")

/-- The name of the type of a value, with the family it belongs to. -/
def fullTypeName (d : Datum) : Text :=
  match d with
  | .date _ | .clock _ | .moment _ | .duration _ => "datetime." ++ d.typeName
  | .decimal _ => "decimal." ++ d.typeName
  | .object false _ => "types." ++ d.typeName
  | _ => d.typeName

end Datum

namespace Pattern

def Fault.raised (fault : Fault) : Raised := .of fault.kind fault.message

/-- Reads a pattern that is given as a value. -/
def ofDatum (d : Datum) : Except Raised Pattern :=
  match d with
  | .text t => (Pattern.ofText t).mapError Fault.raised
  | .bytes b => (Pattern.ofBytes b).mapError Fault.raised
  | d => match d.unhashable? with
    | some name => .error (Datum.unhashable name)
    | none => .error (.of .typeError "first argument must be string or compiled pattern")

/-- Whether a pattern occurs in a key. -/
def occursInKey (pattern : Pattern) (key : Datum) : Except Raised Bool :=
  match key with
  | .text t =>
    if pattern.isText then .ok (occursIn pattern t)
    else .error (.of .typeError "cannot use a bytes pattern on a string-like object")
  | .bytes b =>
    if pattern.isText then .error (.of .typeError "cannot use a string pattern on a bytes-like object")
    else .ok (occursIn pattern (b.map fun o => Point.ofNat o.toNat))
  | d => .error (.of .typeError ("expected string or bytes-like object, got '" ++ d.fullTypeName ++ "'"))

end Pattern

end PhaseScript
