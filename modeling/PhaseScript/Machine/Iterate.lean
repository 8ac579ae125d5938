import PhaseScript.Machine.Interp
/-
Iteration. An iterator over something that can change reads it again for each item, so that a change made in between
shows, or is noticed.
-/
set_option autoImplicit false

namespace PhaseScript.Machine

/-- The numbers of a range. -/
def rangeItems (start step : Int) : Nat → List Value
  | 0 => []
  | n + 1 => .int start :: rangeItems (start + step) step n

def textItems (t : Text) : List Value := t.map fun p => .text [p]

def bytesItems (b : Bytes) : List Value := b.map fun o => .int (Int.ofNat o.toNat)

/-- What a view shows of an entry. -/
def ViewKind.item : ViewKind → Value × Value → Run Value
  | .keys, e => return e.1
  | .values, e => return e.2
  | .items, e => Run.newTuple [e.1, e.2]

def ViewKind.name : ViewKind → Text
  | .keys => "key"
  | .values => "value"
  | .items => "item"

namespace Run

def newIterator (typeName : Text) (source : Iteration) : Run Value := alloc (.iterator typeName source)

/-- The iterator over a view of the dict at an address. -/
def viewIterator (kind : ViewKind) (address : Nat) : Run Value := do
  let keys := ((← entries? (.ref address)).getD #[]).map (·.1)
  newIterator ("dict_" ++ kind.name ++ "iterator") (.view kind address keys 0 keys.size)

/-- The iterator of a value. -/
def iterator (v : Value) : Run Value := do
  match v with
  | .text t => newIterator "str_iterator" (.items (textItems t))
  | .bytes b => newIterator "bytes_iterator" (.items (bytesItems b))
  | .tuple items _ => newIterator "tuple_iterator" (.items items)
  | .range start stop step => newIterator "range_iterator" (.range start step (rangeLength start stop step))
  | .generic _ origin args _ =>
    newIterator "generic_alias_iterator" (.items [.generic true origin args (← newMark)])
  | .ref address =>
    match ← cellAt address with
    | .list _ => newIterator "list_iterator" (.listFrom address 0)
    | .dict _ _ => viewIterator .keys address
    | .set items => newIterator "set_iterator" (.setFrom address 0 items.size)
    | .proxy dict => viewIterator .keys dict
    | .view kind dict => viewIterator kind dict
    | .generator _ _ | .iterator _ _ => return v
    | _ => typeErrorOf "'" v "' object is not iterable"
  | _ => typeErrorOf "'" v "' object is not iterable"

/-- The next item of an iterator value. -/
def nextItem (m : Interp) (it : Value) : Run (Option Value) :=
  match it with
  | .ref address => m.next address
  | _ => typeErrorOf "'" it "' object is not an iterator"

/-- The next item of each of some iterators, none if one has come to its end. -/
def nextOfEach (m : Interp) : List Value → Run (Option (List Value))
  | [] => return some []
  | it :: rest => do
    match ← nextItem m it with
    | none => return none
    | some v =>
      match ← nextOfEach m rest with
      | none => return none
      | some items => return some (v :: items)

/-- Turns for items until one is kept. -/
def nextKept (m : Interp) (function it : Value) : Run (Option Value) :=
  loop (fun () => do
    match ← nextItem m it with
    | none => return .ok none
    | some v =>
      let kept ← match function with
        | .none => truth v
        | f => do truth (← m.apply f [v])
      return if kept then .ok (some v) else .error ()) repeatedly ()

/-- The entry of a dict that comes next and the place behind it, if the dict had these keys at first and all before a
place have been passed: that of the first key left that it still has, and behind the last one an entry that is new. -/
def nextEntry? (entries : Array (Value × Value)) (keys : Array Value) (place : Nat) :
    Option ((Value × Value) × Nat) :=
  let unchanged := match entries[place]?, keys[place]? with
    -- A key that is not even the same as itself is known by its place.
    | some e, some k => if e.1.sameKey k || !k.sameKey k then some (e, place + 1) else none
    | _, _ => none
  let kept (p : Nat) : Option ((Value × Value) × Nat) := do
    let k ← keys[p]?
    let e ← entries.find? fun e => e.1.sameKey k
    some (e, p + 1)
  let added := fun (_ : Unit) => (entries.filter fun e => !keys.any e.1.sameKey)[place - keys.size]?.map fun e =>
    (e, max place keys.size + 1)
  unchanged.or ((((List.range keys.size).drop place).findSome? kept).or
    (if entries.map (·.1) |>.isEqv keys Value.sameKey then none else added ()))

/-- The next item of an iteration and what is left of it. -/
def advance (m : Interp) (source : Iteration) : Run (Option (Value × Iteration)) := do
  match source with
  | .finished => return none
  | .items [] => return none
  | .items (v :: left) => return some (v, .items left)
  | .listFrom address index =>
    match ← cellAt address with
    | .list items => return (items[index]?).map fun v => (v, .listFrom address (index + 1))
    | _ => return none
  | .view kind address keys place left =>
    let entries := (← entries? (.ref address)).getD #[]
    if entries.size != keys.size then raise .runtimeError "dictionary changed size during iteration"
    match nextEntry? entries keys place with
    | none => return none
    | some (e, place) =>
      if left == 0 then raise .runtimeError "dictionary keys changed during iteration"
      return some (← kind.item e, .view kind address keys place (left - 1))
  | .setFrom address place size =>
    match ← cellAt address with
    | .set items =>
      if items.size != size then raise .runtimeError "Set changed size during iteration"
      return (items.next? place).map fun (v, place) => (v, .setFrom address (place + 1) size)
    | _ => return none
  | .range _ _ 0 => return none
  | .range next step (left + 1) => return some (.int next, .range (next + step) step left)
  | .counted it index =>
    match ← nextItem m it with
    | some v => return some (← newTuple [.int index, v], .counted it (index + 1))
    | none => return none
  | .mapped function its =>
    match ← nextOfEach m its with
    | none => return none
    | some args => return some (← m.apply function args, .mapped function its)
  | .kept function it => return (← nextKept m function it).map fun v => (v, .kept function it)

/-- Whether an iteration may go on after it came to an end. -/
def staysOpen : Iteration → Bool
  | .counted _ _ | .mapped _ _ | .kept _ _ => true
  | _ => false

/-- The next item of the iterator at an address. -/
def nextOfIterator (m : Interp) (address : Nat) (typeName : Text) (source : Iteration) : Run (Option Value) := do
  match ← advance m source with
  | some (v, rest) =>
    setCell address (.iterator typeName rest)
    return some v
  | none =>
    if !staysOpen source then setCell address (.iterator typeName .finished)
    return none

/-- How many turns an iterator may take. A list comes to its end however long it is. -/
def turnsOf (it : Value) : Run Nat := do
  match ← cell? it with
  | some (.iterator _ (.listFrom address _)) =>
    match ← cellAt address with
    | .list items => return repeatedly + items.size
    | _ => return repeatedly
  | _ => return repeatedly

/-- Goes through the items of an iterator with a state, until one ends it or none is left. -/
def foldItems {σ : Type} (m : Interp) (step : σ → Value → Run (σ × Bool)) (it : Value) (start : σ) : Run σ := do
  let turns ← turnsOf it
  loop (fun s => do
    match ← nextItem m it with
    | none => return .ok s
    | some v =>
      let (s, isLast) ← step s v
      return if isLast then .ok s else .error s) turns start

/-- The items of a value that are at hand, if it is a plain container. -/
def itemsAtHand? (v : Value) : Run (Option (List Value)) := do
  match v with
  | .text t => return some (textItems t)
  | .bytes b => return some (bytesItems b)
  | .tuple items _ => return some items
  | .range start stop step =>
    let size := rangeLength start stop step
    if size < 10 ^ 7 then return some (rangeItems start step size) else return none
  | .ref address =>
    match ← cellAt address with
    | .list items => return some items.toList
    | .set items => return some items.items.toList
    | .dict entries _ => return some (entries.toList.map (·.1))
    | .proxy dict => return (← entries? (.ref dict)).map fun entries => entries.toList.map (·.1)
    | .view kind dict =>
      match ← entries? (.ref dict) with
      | some entries => return some (← entries.toList.mapM kind.item)
      | none => return none
    | _ => return none
  | _ => return none

/-- Takes a step for each item of a value in turn. What can change while it is gone through is read item by item. -/
def forItems (m : Interp) (v : Value) (step : Value → Run Unit) : Run Unit := do
  match v with
  | .text _ | .bytes _ | .tuple _ _ => ((← itemsAtHand? v).getD []).forM step
  | _ =>
    foldItems m (fun _ v => do
      step v
      return ((), false)) (← iterator v) ()

/-- All items of a value. -/
def itemsOf (m : Interp) (v : Value) : Run (List Value) := do
  match ← itemsAtHand? v with
  | some items => return items
  | none =>
    let it ← iterator v
    return (← foldItems m (fun found v => return (v :: found, false)) it []).reverse

end Run

end PhaseScript.Machine
