import PhaseScript.Machine.Intake
import PhaseScript.Machine.Subscript
import PhaseScript.Machine.Sorting
/-
The methods of lists, dicts, sets, tuples, ranges and views.
-/
set_option autoImplicit false

namespace PhaseScript.Machine

namespace Run

/-- The items of the list at an address. -/
def listAt (address : Nat) : Run (Array Value) := do
  match ← cellAt address with
  | .list items => return items
  | _ => return #[]

def setList (address : Nat) (items : Array Value) : Run Unit := setCell address (.list items)

/-- The entries of the dict at an address. -/
def dictAt (address : Nat) : Run (Array (Value × Value)) := return (← entries? (.ref address)).getD #[]

/-- Puts other entries into the dict at an address. -/
def setDict (address : Nat) (entries : Array (Value × Value)) : Run Unit := modifyDict address fun _ => entries

/-- Sorts values by their keys; equal ones keep their order, also when the order is turned round. What a comparison
raises comes with the arrangement reached. -/
def sortedValues (m : Interp) (items : List Value) (key : Value) (isReversed : Bool) :
    Run (Array Value × Option Value) := do
  let keyed ← items.mapM fun v => do
    match key with
    | .none => return (v, v)
    | key => return (← m.apply key [v], v)
  let keyed := if isReversed then keyed.reverse else keyed
  let (sorted, error) ← Sorting.sort (fun a b => order .less a.1 b.1) keyed.toArray
  let values := sorted.map (·.2)
  return (if isReversed then values.reverse else values, error)

/-- Sorts the list at an address, which is empty in the meantime and must stay so. -/
def sortList (m : Interp) (address : Nat) (key : Value) (isReversed : Bool) : Run Unit := do
  let items ← listAt address
  setList address #[]
  match ← catching (sortedValues m items.toList key isReversed) with
  | .error error =>
    setList address items
    raiseValue error
  | .ok (arrangement, error) =>
    let isTouched := !(← listAt address).isEmpty
    setList address arrangement
    match error with
    | some error => raiseValue error
    | none => if isTouched then valueError "list modified during sort"

/-- Whether an order is asked to be turned round. -/
def isTurned (args : List (Option Value)) (place : Nat) : Run Bool := do
  match given? args place with
  | none => return false
  | some v => return (← wordIndex v) != 0

/-- The place of a value among items, from one place up to another. -/
def placeAmong (v : Value) (items : List Value) (start stop : Option Value) : Run (Option Nat) := do
  let bound (b : Option Value) (otherwise : Int) : Run Int := do
    match b with
    | none => return otherwise
    | some b => do
      match b.int? with
      | some n => return n
      | none => typeError "slice indices must be integers or have an __index__ method"
  let length : Int := items.length
  let low := SlicePlaces.clamp items.length 0 length (← bound start 0)
  let high := SlicePlaces.clamp items.length 0 length (← bound stop length)
  let rec search : Nat → List Value → Run (Option Nat)
    | _, [] => return none
    | place, w :: rest => do
      if ← sameItem w v then return some place else search (place + 1) rest
  let found ← search low.toNat ((items.take high.toNat).drop low.toNat)
  return found

/-- How many items are a value. -/
def countAmong (v : Value) (items : List Value) : Run Value := do
  let n ← items.foldlM (fun n w => do return if ← sameItem w v then n + 1 else n) (0 : Nat)
  return .int n

end Run

open Run

/-- The methods of lists, by the address of the list. -/
def listMethods : List (Method Nat) := [
  ⟨"append", .single, fun _ a args => do
    modifyList a fun items => items.push (argument args 0)
    return .none⟩,
  ⟨"clear", .nothing true, fun _ a _ => do
    setList a #[]
    return .none⟩,
  ⟨"copy", .nothing true, fun _ a _ => do newArray (← listAt a)⟩,
  ⟨"count", .single, fun _ a args => do countAmong (argument args 0) (← listAt a).toList⟩,
  ⟨"extend", .single, fun m a args => do
    extendList m a (argument args 0)
    return .none⟩,
  ⟨"index", .span 1 3, fun _ a args => do
    match ← placeAmong (argument args 0) (← listAt a).toList (given? args 1) (given? args 2) with
    | some n => return .int n
    | none => valueError ((← quotedText (argument args 0)) ++ " is not in list")⟩,
  ⟨"insert", .span 2 2, fun _ a args => do
    let n ← sizeIndex (argument args 0)
    let items ← listAt a
    let place := (SlicePlaces.clamp items.size 0 items.size n).toNat
    setList a ((items.take place).push (argument args 1) ++ items.drop place)
    return .none⟩,
  ⟨"pop", .span 0 1, fun _ a args => do
    let n ← match given? args 0 with
      | none => pure (-1)
      | some v => sizeIndex v
    let items ← listAt a
    if items.isEmpty then raise .indexError "pop from empty list"
    let place ← rowPlace "pop index out of range" items.size n
    setList a (items.eraseIdxIfInBounds place)
    return (items[place]?).getD .none⟩,
  ⟨"remove", .single, fun _ a args => do
    let items ← listAt a
    match ← placeAmong (argument args 0) items.toList none none with
    | some n =>
      setList a (items.eraseIdxIfInBounds n)
      return .none
    | none => valueError "list.remove(x): x not in list"⟩,
  ⟨"reverse", .nothing true, fun _ a _ => do
    setList a (← listAt a).reverse
    return .none⟩,
  ⟨"sort", .named ⟨["key", "reverse"], 0, 0, 0⟩, fun m a args => do
    let isReversed ← isTurned args 1
    sortList m a (argument args 0) isReversed
    return .none⟩]

/-- Adds the entries of a value, and named ones, to the dict at an address. -/
def Run.updateDict (m : Interp) (address : Nat) (source : Option Value) (named : List (Text × Value)) : Run Unit := do
  match source with
  | none => pure ()
  | some v => updateFrom m address v
  modifyDict address fun entries => named.foldl (fun entries (n, v) => putEntry entries (.text n) v) entries

/-- The methods that a dict and a view that cannot be written through share, by the address of the dict. -/
def readingMethods : List (Method Nat) := [
  ⟨"get", .span 1 2, fun _ a args => do
    let key := argument args 0
    checkHashable key
    let entries ← dictAt a
    match (findKey? entries key).bind (entries[·]?) with
    | some (_, v) => return v
    | none => return argument args 1⟩,
  ⟨"keys", .nothing false, fun _ a _ => alloc (.view .keys a)⟩,
  ⟨"values", .nothing false, fun _ a _ => alloc (.view .values a)⟩,
  ⟨"items", .nothing false, fun _ a _ => alloc (.view .items a)⟩,
  ⟨"copy", .nothing false, fun _ a _ => do alloc (.dict (← dictAt a) false)⟩]

/-- The methods of dicts, by the address of the dict. `update` is called apart, since it takes any names. -/
def dictMethods : List (Method Nat) := readingMethods ++ [
  ⟨"clear", .nothing false, fun _ a _ => do
    setDict a #[]
    return .none⟩,
  ⟨"pop", .span 1 2, fun _ a args => do
    let key := argument args 0
    let entries ← dictAt a
    if !entries.isEmpty then checkHashable key
    match (findKey? entries key).bind (entries[·]?), withoutKey entries key with
    | some (_, v), some rest =>
      setDict a rest
      return v
    | _, _ => match given? args 1 with
      | some v => return v
      | none => raiseArgs .keyError [key]⟩,
  ⟨"popitem", .nothing true, fun _ a _ => do
    let entries ← dictAt a
    match entries.back? with
    | some (k, v) =>
      setDict a entries.pop
      newTuple [k, v]
    | none => raise .keyError "popitem(): dictionary is empty"⟩,
  ⟨"setdefault", .span 1 2, fun _ a args => do
    let key := argument args 0
    checkHashable key
    let entries ← dictAt a
    match (findKey? entries key).bind (entries[·]?) with
    | some (_, v) => return v
    | none =>
      setDict a (entries.push (key, argument args 1))
      return argument args 1⟩]

/-- Whether some item of a value is, or is not, as `test` says; no more items are taken than are needed. -/
def Run.anyItem (m : Interp) (v : Value) (test : Value → Run Bool) : Run Bool := do
  foldItems m (fun _ item => do
    let found ← test item
    return (found, found)) (← iterator v) false

/-- Looks an item up in the set at an address. -/
def Run.setAtHas (address : Nat) (item : Value) : Run Bool := do
  checkSought item
  return (← setAt address).has item

/-- The operations that take any number of values: each is carried out for one value after the other. -/
def Run.eachArgument (args : List (Option Value)) (step : Value → Run Unit) : Run Unit := (args.filterMap id).forM step

/-- The methods of sets, by the address of the set. -/
def setMethods : List (Method Nat) := [
  ⟨"add", .single, fun _ a args => do
    checkHashable (argument args 0)
    modifySet a (ValueSet.with_ · (argument args 0))
    return .none⟩,
  ⟨"clear", .nothing false, fun _ a _ => do
    modifySet a fun s => { ItemTable.empty with finger := s.finger }
    return .none⟩,
  ⟨"copy", .nothing false, fun m a _ => do return .ref (← setFrom m (.ref a))⟩,
  ⟨"discard", .single, fun _ a args => do
    checkSought (argument args 0)
    modifySet a (ValueSet.without · (argument args 0))
    return .none⟩,
  ⟨"remove", .single, fun _ a args => do
    let v := argument args 0
    checkSought v
    match (← setAt a).without? v with
    | some s =>
      setCell a (.set s)
      return .none
    | none => raiseArgs .keyError [v]⟩,
  ⟨"pop", .nothing false, fun _ a _ => do
    match (← setAt a).pop? with
    | some (v, s) =>
      setCell a (.set s)
      return v
    | none => raise .keyError "pop from an empty set"⟩,
  ⟨"union", .any, fun m a args => do
    let s ← setFrom m (.ref a)
    eachArgument args fun v => if v.identical (.ref a) then return () else addItems m s v
    return .ref s⟩,
  ⟨"intersection", .any, fun m a args => do
    let s ← (args.filterMap id).foldlM (fun (s : Nat) v => do
      match ← newSet (← sharedItems m s v) with
      | .ref shared => return shared
      | _ => return s) a
    if s == a then return .ref (← setFrom m (.ref a)) else return .ref s⟩,
  ⟨"difference", .any, fun m a args => do
    match args.filterMap id with
    | [] => return .ref (← setFrom m (.ref a))
    | v :: rest =>
      let s ← otherItems m a v
      rest.forM (removeItems m s)
      return .ref s⟩,
  ⟨"symmetric_difference", .single, fun m a args => do
    let s ← setFrom m (argument args 0)
    toggleItems m s (.ref a)
    return .ref s⟩,
  ⟨"update", .any, fun m a args => do
    eachArgument args (addItems m a)
    return .none⟩,
  ⟨"intersection_update", .any, fun m a args => do
    let shared ← (args.filterMap id).foldlM (fun (s : Nat) v => do
      match ← newSet (← sharedItems m s v) with
      | .ref shared => return shared
      | _ => return s) (← setFrom m (.ref a))
    let shared ← setAt shared
    modifySet a fun s => { shared with finger := s.finger }
    return .none⟩,
  ⟨"difference_update", .any, fun m a args => do
    eachArgument args (removeItems m a)
    return .none⟩,
  ⟨"symmetric_difference_update", .single, fun m a args => do
    toggleItems m a (argument args 0)
    return .none⟩,
  ⟨"isdisjoint", .single, fun m a args => do
    let v := argument args 0
    match ← cell? v with
    | some (.set t) => return .bool (!(t.items.any (← setAt a).has))
    | _ => return .bool (!(← anyItem m v fun item => do
        checkHashable item
        return (← setAt a).has item))⟩,
  ⟨"issubset", .single, fun m a args => do
    let t ← setFrom m (argument args 0)
    return .bool ((← setAt a).isSubset (← setAt t))⟩,
  ⟨"issuperset", .single, fun m a args => do
    let v := argument args 0
    match ← cell? v with
    | some (.set t) => return .bool (t.isSubset (← setAt a))
    | _ => return .bool (!(← anyItem m v fun item => do return !(← setAtHas a item)))⟩]

/-- The methods of views of keys and of entries, by the view. -/
def viewMethods : List (Method Value) := [
  ⟨"isdisjoint", .single, fun m view args => do
    let other := argument args 0
    let counts := (← isSet other) || (← isView other)
    let isSmall := counts && (← operandSize view) < (← operandSize other)
    let (view, other) := if isSmall then (other, view) else (view, other)
    return .bool (!(← anyItem m other (setHas sameItem view)))⟩]

/-- The methods of tuples. -/
def tupleMethods : List (Method (List Value)) := [
  ⟨"count", .single, fun _ items args => countAmong (argument args 0) items⟩,
  ⟨"index", .span 1 3, fun _ items args => do
    match ← placeAmong (argument args 0) items (given? args 1) (given? args 2) with
    | some n => return .int n
    | none => valueError "tuple.index(x): x not in tuple"⟩]

/-- The methods of ranges. -/
def rangeMethods : List (Method (Int × Int × Int)) := [
  ⟨"count", .single, fun m (start, stop, step) args => do
    return .int (if ← contains m (.range start stop step) (argument args 0) then 1 else 0)⟩,
  ⟨"index", .single, fun m (start, stop, step) args => do
    let v := argument args 0
    match ← contains m (.range start stop step) v, v.int?, v with
    | true, some n, _ => return .int ((n - start) / step)
    | true, none, .float x => return .int ((x.truncate - start) / step)
    | false, some _, _ => valueError ((← quotedText v) ++ " is not in range")
    | _, _, _ => valueError "sequence.index(x): x not in sequence"⟩]

end PhaseScript.Machine
