import PhaseScript.Machine.Snapshot
/-
Truth, equality and order of values.
-/
set_option autoImplicit false

namespace PhaseScript.Machine

open Script (Comparison)

/-- The place of a key among entries. -/
def findKey? (entries : Array (Value × Value)) (key : Value) : Option Nat := entries.findIdx? fun e => e.1.sameKey key

namespace Run

mutual

/-- Refuses what cannot be a key. -/
def checkHashable : Value → Run Unit
  | .tuple items _ | .generic _ _ items _ | .oneOf items _ => checkAllHashable items
  | .slice _ _ _ => typeError "unhashable type: 'slice'"
  | .ref address => do
    let cell ← cellAt address
    match cell with
    | .list _ | .dict _ _ | .set _ | .namespace _ | .proxy _ | .view .keys _ | .view .items _ =>
      typeError ("unhashable type: '" ++ (← typeName (.ref address)) ++ "'")
    | _ => return ()
  | _ => return ()

def checkAllHashable : List Value → Run Unit
  | [] => return ()
  | v :: rest => do
    checkHashable v
    checkAllHashable rest

end

/-- Refuses what cannot be looked for in a set; a set is looked for by its items. -/
def checkSought (v : Value) : Run Unit := do
  match ← cell? v with
  | some (.set _) => return ()
  | _ => checkHashable v

/-- The entries of a dict or of a view of one that cannot be written through. -/
def entries? (v : Value) : Run (Option (Array (Value × Value))) := do
  match ← cell? v with
  | some (.dict entries _) => return some entries
  | some (.proxy dict) =>
    match ← cellAt dict with
    | .dict entries _ => return some entries
    | _ => return none
  | _ => return none

/-- The items of a set, or of a view that counts as one. -/
def setItems? (v : Value) : Run (Option (Array Value)) := do
  match ← cell? v with
  | some (.set items) => return some items.items
  | some (.view .keys dict) => return (← entries? (.ref dict)).map fun entries => entries.map (·.1)
  | some (.view .items dict) =>
    match ← entries? (.ref dict) with
    | some entries => return some (← entries.mapM fun e => newTuple [e.1, e.2])
    | none => return none
  | _ => return none

/-- Whether a set, or a view that counts as one, has an item. Values are compared by `same`. -/
def setHas (same : Value → Value → Run Bool) (container v : Value) : Run Bool := do
  match ← cell? container, v with
  | some (.set items), _ =>
    checkSought v
    return items.has v
  | some (.view .keys dict), _ =>
    checkHashable v
    return (findKey? ((← entries? (.ref dict)).getD #[]) v).isSome
  | some (.view .items dict), .tuple [key, value] _ =>
    checkHashable key
    let entries := (← entries? (.ref dict)).getD #[]
    match (findKey? entries key).bind (entries[·]?) with
    | some (_, found) => same found value
    | none => return false
  | _, _ => return false

/-- Whether a set, or a view that counts as one, has all of some items. -/
def setHasAll (same : Value → Value → Run Bool) (container : Value) : List Value → Run Bool
  | [] => return true
  | v :: rest => do if ← setHas same container v then setHasAll same container rest else return false

/-- Whether two rows agree place by place. -/
def agree (same : Value → Value → Run Bool) : List Value → List Value → Run Bool
  | [], [] => return true
  | v :: s, w :: t => do if ← same v w then agree same s t else return false
  | _, _ => return false

/-- Whether every entry of one dict is in another. -/
def entriesAgree (same : Value → Value → Run Bool) (others : Array (Value × Value)) :
    List (Value × Value) → Run Bool
  | [] => return true
  | (k, v) :: rest => do
    match (findKey? others k).bind (others[·]?) with
    | some (_, w) => if ← same v w then entriesAgree same others rest else return false
    | none => return false

/-- Equality. The fuel bounds the depth. -/
def eqWithin : Nat → Value → Value → Run Bool
  | 0, _, _ => raise .recursionError "maximum recursion depth exceeded in comparison"
  | fuel + 1, v, w => do
    let same (v w : Value) : Run Bool := if v.identical w then return true else eqWithin fuel v w
    match v, w with
    | .tuple s _, .tuple t _ => if s.length == t.length then agree same s t else return false
    | .slice a b c, .slice a' b' c' => agree same [a, b, c] [a', b', c']
    | .generic isSpread origin s _, .generic isSpread' origin' t _ =>
      if isSpread == isSpread' && origin == origin' && s.length == t.length then agree same s t else return false
    | .oneOf _ _, .oneOf _ _ =>
      checkHashable v
      checkHashable w
      return v.equals w
    | .ref a, .ref b =>
      if a == b then return true
      match ← cellAt a, ← cellAt b with
      | .list s, .list t => if s.size == t.size then agree same s.toList t.toList else return false
      | .namespace s, .namespace t =>
        if s.length == t.length then agree same (s.map (·.2)) (t.map (·.2)) else return false
      | _, _ =>
        match ← entries? v, ← entries? w with
        | some s, some t => if s.size == t.size then entriesAgree same t s.toList else return false
        | _, _ =>
          match ← setItems? v, ← setItems? w with
          | some s, some t => if s.size == t.size then setHasAll same w s.toList else return false
          | _, _ => return false
    | _, _ => return v.equals w

/-- Equality. -/
def eq (v w : Value) : Run Bool := eqWithin Datum.depthLimit v w

/-- Equality of things in a container: the very same thing is equal to itself. -/
def sameItem (v w : Value) : Run Bool := if v.identical w then return true else eq v w

/-- The length of a value that has one. -/
def length? (v : Value) : Run (Option Nat) :=
  match v with
  | .text t => return some t.length
  | .bytes b => return some b.length
  | .tuple items _ => return some items.length
  | .range a b c => return some (rangeLength a b c)
  | .ref address => do
    match ← cellAt address with
    | .list items => return some items.size
    | .set items => return some items.size
    | .dict entries _ => return some entries.size
    | .proxy dict | .view _ dict => return (← entries? (.ref dict)).map (·.size)
    | _ => return none
  | _ => return none

/-- Whether a value counts as true. -/
def truth (v : Value) : Run Bool :=
  match v with
  | .none => return false
  | .bool b => return b
  | .int n => return n != 0
  | .float x => return !x.isZero
  | .complex re im => return !(re.isZero && im.isZero)
  | .duration d => return d.micros != 0
  | v => do return (← length? v).getD 1 != 0

/-- What a comparison says of an order. -/
def holds (operator : Comparison) (o : Ordering) : Bool :=
  match operator with
  | .less => o == .lt
  | .lessEqual => o != .gt
  | .greater => o == .gt
  | .greaterEqual => o != .lt
  | .equal => o == .eq
  | .notEqual => o != .eq
  | _ => false

/-- The order of two real numbers, if neither is NaN. -/
def compareNumerals? : Numeral → Numeral → Option (Option Ordering)
  | .int a, .int b => some (some (compare a b))
  | .int a, .float x => some ((x.compareInt? a).map Ordering.swap)
  | .float x, .int a => some (x.compareInt? a)
  | .float x, .float y => some (Binary64.compare? x y)
  | _, _ => none

def compareBytes (s t : Bytes) : Ordering := Text.compare (s.map fun b => Point.ofNat b.toNat) (t.map fun b => Point.ofNat b.toNat)

/-- The first place at which two rows differ: the two items there, or the order of their lengths. -/
def firstDifference : List Value → List Value → Run (Except Ordering (Value × Value))
  | [], [] => return .error .eq
  | [], _ :: _ => return .error .lt
  | _ :: _, [] => return .error .gt
  | v :: s, w :: t => do if ← sameItem v w then firstDifference s t else return .ok (v, w)

/-- A dict in the place of a view of it that cannot be written through. -/
def unveiled (v : Value) : Run Value := do
  match ← cell? v with
  | some (.proxy dict) => return .ref dict
  | _ => return v

def isProxy (v : Value) : Run Bool := do
  match ← cell? v with
  | some (.proxy _) => return true
  | _ => return false

/-- The comparison that says the same of two values turned round. -/
def turned (operator : Comparison) : Comparison :=
  match operator with
  | .less => .greater
  | .greater => .less
  | .lessEqual => .greaterEqual
  | .greaterEqual => .lessEqual
  | other => other

/-- The complaint about two values that have no order. A view that cannot be written through hands the question on to
its dict. -/
def refuseOrder {α : Type} (operator : Comparison) (v w : Value) : Run α := do
  let (operator, v, w) := match ← isProxy v, ← isProxy w with
    | _, true => (turned operator, w, v)
    | _, false => (operator, v, w)
  let nameOf (v : Value) : Run Text := do typeName (← unveiled v)
  -- Two objects with fixed attributes are compared by the dicts of these.
  let (left, right) ← match ← cell? v, ← cell? w with
    | some (.namespace _), some (.namespace _) => pure (("dict" : Text), ("dict" : Text))
    | _, _ => do pure (← nameOf v, ← nameOf w)
  typeError ("'" ++ Text.ofString operator.symbol ++ "' not supported between instances of '" ++ left ++ "' and '"
    ++ right ++ "'")

/-- Whether one value comes before another, and the like. The fuel bounds the depth. -/
def orderWithin (operator : Comparison) : Nat → Value → Value → Run Bool
  | 0, _, _ => raise .recursionError "maximum recursion depth exceeded in comparison"
  | fuel + 1, v, w => do
    let refuse : Run Bool := refuseOrder operator v w
    let rows (s t : List Value) : Run Bool := do
      match ← firstDifference s t with
      | .error o => return holds operator o
      | .ok (x, y) => orderWithin operator fuel x y
    match v.numeral?, w.numeral? with
    | some x, some y =>
      match compareNumerals? x y with
      | some o => return (o.map (holds operator)).getD false
      | none => refuse
    | _, _ =>
      match v, w with
      | .text s, .text t => return holds operator (Text.compare s t)
      | .bytes s, .bytes t => return holds operator (compareBytes s t)
      | .tuple s _, .tuple t _ => rows s t
      | .date s, .date t => return holds operator (Date.compare s t)
      | .duration s, .duration t => return holds operator (compare s.micros t.micros)
      | .moment s, .moment t =>
        if s.clock.offset.isSome == t.clock.offset.isSome then
          return holds operator (compare s.absoluteMicros t.absoluteMicros)
        else typeError "can't compare offset-naive and offset-aware datetimes"
      | .moment _, .date _ | .date _, .moment _ => typeError "can't compare datetime.datetime to datetime.date"
      | .clock s, .clock t =>
        if s.offset.isSome == t.offset.isSome then
          return holds operator (compare (ClockTime.absolute s) (ClockTime.absolute t))
        else typeError "can't compare offset-naive and offset-aware times"
      | .ref a, .ref b =>
        match ← cellAt a, ← cellAt b with
        | .list s, .list t => rows s.toList t.toList
        | _, _ =>
          match ← setItems? v, ← setItems? w with
          | some s, some t =>
            let within (few : Array Value) (most : Nat) (container : Value) : Run Bool :=
              if few.size ≤ most then setHasAll sameItem container few.toList
              else return false
            match operator with
            | .less => if s.size < t.size then within s t.size w else return false
            | .lessEqual => within s t.size w
            | .greater => if t.size < s.size then within t s.size v else return false
            | .greaterEqual => within t s.size v
            | _ => refuse
          | _, _ => refuse
      | _, _ => refuse

def order (operator : Comparison) (v w : Value) : Run Bool := orderWithin operator Datum.depthLimit v w

end Run

end PhaseScript.Machine
