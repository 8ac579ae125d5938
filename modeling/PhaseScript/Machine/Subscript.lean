import PhaseScript.Machine.Arithmetic
/-
Items by index, key or slice: reading, writing and deleting them; and membership. Only lists and dicts can be written.
-/
set_option autoImplicit false

namespace PhaseScript.Machine

/-- The places that a slice takes of a row: the first one, the step and how many. -/
structure SlicePlaces where
  start : Int
  stop : Int
  step : Int
  count : Nat
  deriving DecidableEq, Repr, Inhabited

namespace SlicePlaces

/-- A bound of a slice as a place of a row: counted from the end if it is negative, and kept within the row. -/
def clamp (length : Nat) (low high n : Int) : Int :=
  let n := if n < 0 then n + length else n
  if n < low then low else if high < n then high else n

/-- The places of a slice in a row of some length. -/
def ofBounds (length : Nat) (start stop : Option Int) (step : Int) : SlicePlaces :=
  let (low, high) : Int × Int := if step < 0 then (-1, Int.ofNat length - 1) else (0, Int.ofNat length)
  let first := match start with
    | some n => clamp length low high n
    | none => if step < 0 then high else low
  let last := match stop with
    | some n => clamp length low high n
    | none => if step < 0 then low else high
  ⟨first, last, step, rangeLength first last step⟩

/-- The places in turn. -/
def places (s : SlicePlaces) : List Nat :=
  (List.range s.count).map fun k => (s.start + s.step * Int.ofNat k).toNat

/-- The items at the places. -/
def pick {α : Type} (s : SlicePlaces) (items : Array α) : List α := s.places.filterMap fun k => items[k]?

end SlicePlaces

namespace Run

/-- A bound of a slice. -/
def sliceBound (v : Value) : Run (Option Int) :=
  match v with
  | .none => return none
  | _ => match v.int? with
    | some n => return some n
    | none => typeError "slice indices must be integers or None or have an __index__ method"

/-- The places of a slice in a row of some length. -/
def slicePlaces (start stop step : Value) (length : Nat) : Run SlicePlaces := do
  let step := (← sliceBound step).getD 1
  if step == 0 then valueError "slice step cannot be zero"
  let first ← sliceBound start
  let last ← sliceBound stop
  return .ofBounds length first last step

/-- The place of an index in a row; a negative one counts from the end. -/
def rowPlace (outOfRange : Text) (length : Nat) (n : Int) : Run Nat :=
  if n ≥ 2 ^ 63 || n < -(2 ^ 63) then raise .indexError "cannot fit 'int' into an index-sized integer"
  else
    let place := if n < 0 then n + length else n
    if place < 0 || place ≥ length then raise .indexError outOfRange else return place.toNat

/-- What an index asks of a row. -/
inductive RowIndex where
  | place (n : Nat)
  | places (s : SlicePlaces)

/-- What an index asks of a row with this length; `words` and `outOfRange` are for its complaints. -/
def rowIndex (words : Text) (outOfRange : Text) (quote : Text) (length : Nat) (index : Value) : Run RowIndex := do
  match index with
  | .slice start stop step => return .places (← slicePlaces start stop step length)
  | _ => match index.int? with
    | some n => return .place (← rowPlace outOfRange length n)
    | none => typeErrorOf (words ++ ", not " ++ quote) index quote

/-- The value under a key. -/
def entryOf (entries : Array (Value × Value)) (key : Value) : Run Value := do
  checkHashable key
  match (findKey? entries key).bind (entries[·]?) with
  | some (_, v) => return v
  | none => raiseArgs .keyError [key]

/-- The types that can be given arguments. -/
def takesTypes (t : TypeName) : Bool := [TypeName.list, .dict, .tuple, .set, .enumerate].contains t

/-- The value at an index or under a key. -/
def item (v index : Value) : Run Value := do
  let indices (name : String) (outOfRange : String) (length : Nat) : Run RowIndex :=
    rowIndex (Text.ofString name ++ " indices must be integers or slices") (Text.ofString outOfRange) [] length index
  match v with
  | .text t =>
    match ← rowIndex "string indices must be integers" "string index out of range" "'" t.length index with
    | .place n => return .text ((t[n]?).toList)
    | .places s => return .text (s.pick t.toArray)
  | .bytes b =>
    match ← indices "byte" "index out of range" b.length with
    | .place n => return .int (((b[n]?).map fun o => Int.ofNat o.toNat).getD 0)
    | .places s => return .bytes (s.pick b.toArray)
  | .tuple items mark =>
    match ← indices "tuple" "tuple index out of range" items.length with
    | .place n => return (items[n]?).getD .none
    | .places s =>
      if s.start == 0 && s.step == 1 && s.count == items.length then plainRow items mark
      else newTuple (s.pick items.toArray)
  | .range start stop step =>
    let length := rangeLength start stop step
    let place : Value := match index with
      | .slice _ _ _ => index
      -- However large, an index is only out of range.
      | _ => (index.int?.map fun n => Value.int (max (-(length : Int) - 1) (min n length))).getD index
    match ← rowIndex "range indices must be integers or slices" "range object index out of range" [] length place with
    | .place n => return .int (start + step * n)
    | .places s => return .range (start + step * s.start) (start + step * s.stop) (step * s.step)
  | .type t =>
    if !takesTypes t then typeError ("type '" ++ t.fullName ++ "' is not subscriptable")
    let args := match index with
      | .tuple items _ => items
      | _ => [index]
    return .generic false t args (← newMark)
  | .generic _ _ _ _ | .oneOf _ _ => do typeError ((← quotedText v) ++ " is not a generic class")
  | .ref address =>
    match ← cellAt address with
    | .list items =>
      match ← indices "list" "list index out of range" items.size with
      | .place n => return (items[n]?).getD .none
      | .places s => newList (s.pick items)
    | .dict entries _ => entryOf entries index
    | .proxy dict => entryOf ((← entries? (.ref dict)).getD #[]) index
    | _ => typeErrorOf "'" v "' object is not subscriptable"
  | _ => typeErrorOf "'" v "' object is not subscriptable"

def refuseItemWrite {α : Type} : Run α := typeError "object does not support item or slice assignment"

/-- The list with the items at some places replaced by as many others. -/
def replaceAt (items : Array Value) (places : List Nat) (others : List Value) : Array Value :=
  (places.zip others).foldl (fun found (k, v) => found.setIfInBounds k v) items

/-- The items of a value that is assigned to a slice; `words` refuse a value without items. -/
def assignedItems (m : Interp) (words : Text) (v : Value) : Run (List Value) := do
  match ← catching (itemsOf m v) with
  | .ok items => return items
  | .error e =>
    match ← catching (iterator v) with
    | .ok _ => raiseValue e
    | .error _ => typeError words

/-- Writes an item. -/
def setItem (m : Interp) (v index new : Value) : Run Unit := do
  match v with
  | .ref address =>
    match ← cellAt address with
    | .list items =>
      match ← rowIndex "list indices must be integers or slices" "list assignment index out of range" [] items.size
        index with
      | .place n => setCell address (.list (items.setIfInBounds n new))
      | .places s =>
        let others ← assignedItems m
          (if s.step == 1 then "can only assign an iterable" else "must assign iterable to extended slice") new
        if s.step == 1 then
          let first := s.start.toNat
          let last := max first s.stop.toNat
          setCell address (.list (items.take first ++ others.toArray ++ items.drop last))
        else if others.length != s.count then
          valueError ("attempt to assign sequence of size " ++ Text.ofNat others.length
            ++ " to extended slice of size " ++ Text.ofNat s.count)
        else setCell address (.list (replaceAt items s.places others))
    | .dict entries isExports =>
      checkHashable index
      setCell address (.dict (putEntry entries index new) isExports)
    | _ => refuseItemWrite
  | _ => refuseItemWrite

/-- The entries without the one under a key. -/
def withoutKey (entries : Array (Value × Value)) (key : Value) : Option (Array (Value × Value)) :=
  (findKey? entries key).map fun place => entries.eraseIdxIfInBounds place

/-- The items without those at some places. -/
def withoutPlaces (items : Array Value) (places : List Nat) : Array Value :=
  ((items.toList.zipIdx.filter fun (_, k) => !places.contains k).map (·.1)).toArray

/-- Deletes an item. -/
def eraseItem (v index : Value) : Run Unit := do
  match v with
  | .ref address =>
    match ← cellAt address with
    | .list items =>
      match ← rowIndex "list indices must be integers or slices" "list assignment index out of range" [] items.size
        index with
      | .place n => setCell address (.list (items.eraseIdxIfInBounds n))
      | .places s => setCell address (.list (withoutPlaces items s.places))
    | .dict entries isExports =>
      checkHashable index
      match withoutKey entries index with
      | some entries => setCell address (.dict entries isExports)
      | none => raiseArgs .keyError [index]
    | _ => refuseItemWrite
  | _ => refuseItemWrite

/-- Whether one of some items is a value. -/
def isAmong (v : Value) : List Value → Run Bool
  | [] => return false
  | w :: rest => do if ← sameItem w v then return true else isAmong v rest

/-- Whether an iterator gives a value. -/
def isGiven (m : Interp) (v it : Value) : Run Bool :=
  foldItems m (fun _ w => do
    let same ← sameItem w v
    return (same, same)) it false

/-- Whether a value is an item of another, or a part of a text. -/
def contains (m : Interp) (container v : Value) : Run Bool := do
  match container with
  | .text t =>
    match v with
    | .text s => return Text.occursIn s t
    | _ => typeErrorOf "'in <string>' requires string as left operand, not " v []
  | .bytes b =>
    match v with
    | .bytes s => return Text.occursIn (s.map fun o => Point.ofNat o.toNat) (b.map fun o => Point.ofNat o.toNat)
    | _ => match v.int? with
      | some n =>
        if n < 0 || n > 255 then valueError "byte must be in range(0, 256)"
        return b.any fun o => Int.ofNat o.toNat == n
      | none => typeErrorOf "a bytes-like object is required, not '" v "'"
  | .tuple items _ => isAmong v items
  | .range start stop step =>
    match v.int? with
    | some n =>
      return if step > 0 then start ≤ n && n < stop && (n - start) % step == 0
        else stop < n && n ≤ start && (start - n) % (-step) == 0
    | none => match v.numeral? with
      | some (.float x) =>
        if x.isIntegral then
          let n := x.truncate
          return if step > 0 then start ≤ n && n < stop && (n - start) % step == 0
            else stop < n && n ≤ start && (start - n) % (-step) == 0
        else return false
      | _ => return false
  | .ref address =>
    match ← cellAt address with
    | .list items => isAmong v items.toList
    | .set items =>
      checkSought v
      return items.has v
    | .dict entries _ =>
      checkHashable v
      return (findKey? entries v).isSome
    | .proxy dict | .view .keys dict =>
      checkHashable v
      return (findKey? ((← entries? (.ref dict)).getD #[]) v).isSome
    | .view .items _ => setHas sameItem container v
    | .view .values dict => isAmong v (((← entries? (.ref dict)).getD #[]).toList.map (·.2))
    | .generator _ _ | .iterator _ _ => isGiven m v container
    | _ => typeErrorOf "argument of type '" container "' is not iterable"
  | .generic _ _ _ _ => do isGiven m v (← iterator container)
  | _ => typeErrorOf "argument of type '" container "' is not iterable"

/-- A comparison of two values. -/
def comparison (m : Interp) (operator : Script.Comparison) (v w : Value) : Run Value := do
  match operator with
  | .equal => return .bool (← eq v w)
  | .notEqual => return .bool (!(← eq v w))
  | .is => return .bool (v.identical w)
  | .isNot => return .bool (!v.identical w)
  | .isIn => return .bool (← contains m w v)
  | .notIn => return .bool (!(← contains m w v))
  | _ => return .bool (← order operator v w)

end Run

end PhaseScript.Machine
