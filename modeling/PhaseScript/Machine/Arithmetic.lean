import PhaseScript.Machine.Format
import PhaseScript.Machine.Iterate
import PhaseScript.Number.Complex
import PhaseScript.Number.Bits
/-
The operators on values. Each kind of operand is tried in turn: numbers, then sets and dicts, then days and times, then
rows; what none of them takes is refused by the names of the two types.
-/
set_option autoImplicit false

namespace PhaseScript.Machine

open Script (BinaryOperator UnaryOperator)

/-- Whether a floating-point number is an odd integer. -/
def isOddInteger (x : Binary64) : Bool := x.isIntegral && x.truncate % 2 != 0

namespace Run

def zeroDivision {α : Type} (words : Text) : Run α := raise .zeroDivisionError words

def intTooLarge {α : Type} : Run α := raise .overflowError "int too large to convert to float"

/-- An integer as a floating-point number. -/
def floatOfInt (n : Int) : Run Binary64 :=
  let x := Binary64.ofInt n
  if x.isInfinite then intTooLarge else return x

/-- The nearest floating-point number to a quotient of integers. -/
def quotient (a b : Int) : Run Value :=
  if b == 0 then zeroDivision "division by zero"
  else
    let x := Binary64.ofRatio ((a < 0) != (b < 0)) a.natAbs b.natAbs
    if x.isInfinite then raise .overflowError "integer division result too large for a float" else return .float x

/-- A power of floating-point numbers that is a real number. -/
def realPower (x y : Binary64) : Run Value :=
  let r := Binary64.ofFloat (Float.pow x.toFloat y.toFloat)
  if r.isInfinite && x.isFinite && y.isFinite then
    raiseArgs .overflowError [.int 34, .text "Numerical result out of range"]
  else return .float r

/-- A power of complex numbers. -/
def complexPower (z w : Complex) : Run Value :=
  match z.pow w with
  | .ok r => return .complex r.re r.im
  | .error .undefined => zeroDivision "0.0 to a negative or complex power"
  | .error .tooLarge => raise .overflowError "complex exponentiation"

/-- A power of floating-point numbers; a negative one with a broken exponent is complex. -/
def floatPower (x y : Binary64) : Run Value := do
  let one := Binary64.ofInt 1
  if y.isZero then return .float one
  if x.isNaN then return .float x
  if y.isNaN then return .float (if Binary64.eq x one then one else y)
  if x.isZero && y.isFinite then
    if y.isNegative then zeroDivision "0.0 cannot be raised to a negative power"
    return .float (if isOddInteger y then x else Binary64.zero)
  if x.isFinite && y.isFinite && x.isNegative && !y.isIntegral then
    return ← complexPower (.ofReal x) (.ofReal y)
  realPower x y

/-- A power of integers; with a negative exponent it is a floating-point number. -/
def intPower (a b : Int) : Run Value := do
  if b < 0 then floatPower (← floatOfInt a) (← floatOfInt b)
  else if a.natAbs ≤ 1 then return .int (if a == -1 && b % 2 == 1 then -1 else if b == 0 then 1 else a.natAbs)
  else if b > 100000000 then raiseArgs .memoryError []
  else return .int (a ^ b.toNat)

/-- An operator on integers. -/
def intOperation (operator : BinaryOperator) (a b : Int) : Run (Option Value) := do
  match operator with
  | .add => return some (.int (a + b))
  | .subtract => return some (.int (a - b))
  | .multiply => return some (.int (a * b))
  | .divide => return some (← quotient a b)
  | .floorDivide =>
    if b == 0 then zeroDivision "integer division or modulo by zero"
    return some (.int (a.fdiv b))
  | .modulo =>
    if b == 0 then zeroDivision "integer modulo by zero"
    return some (.int (a.fmod b))
  | .power => return some (← intPower a b)
  | .leftShift =>
    if b < 0 then valueError "negative shift count"
    if a == 0 then return some (.int 0)
    if b > 10000000000 then raise .overflowError "too many digits in integer"
    return some (.int (Bits.shiftUp a b.toNat))
  | .rightShift =>
    if b < 0 then valueError "negative shift count"
    if b > Int.ofNat (Bits.length a) then return some (.int (if a < 0 then -1 else 0))
    return some (.int (Bits.shiftDown a b.toNat))
  | .bitAnd => return some (.int (Bits.and a b))
  | .bitOr => return some (.int (Bits.or a b))
  | .bitXor => return some (.int (Bits.xor a b))
  | .matrixMultiply => return none

/-- An operator on floating-point numbers. -/
def floatOperation (operator : BinaryOperator) (x y : Binary64) : Run (Option Value) := do
  match operator with
  | .add => return some (.float (x.add y))
  | .subtract => return some (.float (x.sub y))
  | .multiply => return some (.float (x.mul y))
  | .divide =>
    if y.isZero then zeroDivision "float division by zero"
    return some (.float (x.div y))
  | .floorDivide =>
    if y.isZero then zeroDivision "float floor division by zero"
    return some (.float (x.floorDiv y))
  | .modulo =>
    if y.isZero then zeroDivision "float modulo"
    return some (.float (x.floorMod y))
  | .power => return some (← floatPower x y)
  | _ => return none

/-- An operator on complex numbers. -/
def complexOperation (operator : BinaryOperator) (z w : Complex) : Run (Option Value) := do
  let made (z : Complex) : Run (Option Value) := return some (.complex z.re z.im)
  match operator with
  | .add => made (z.add w)
  | .subtract => made (z.sub w)
  | .multiply => made (z.mul w)
  | .divide => if w.isZero then zeroDivision "complex division by zero" else made (z.div w)
  | .power => return some (← complexPower z w)
  | _ => return none

/-- An operator on numbers of any two types. -/
def numberOperation (operator : BinaryOperator) (a b : Numeral) : Run (Option Value) := do
  let isWhole := [BinaryOperator.leftShift, .rightShift, .bitAnd, .bitOr, .bitXor, .matrixMultiply].contains operator
  match a, b with
  | .int a, .int b => intOperation operator a b
  | .float x, .float y => floatOperation operator x y
  | .int a, .float y => if isWhole then return none else floatOperation operator (← floatOfInt a) y
  | .float x, .int b => if isWhole then return none else floatOperation operator x (← floatOfInt b)
  | .complex re im, .complex re' im' => complexOperation operator ⟨re, im⟩ ⟨re', im'⟩
  | .complex re im, .float y => complexOperation operator ⟨re, im⟩ (.ofReal y)
  | .float x, .complex re im => complexOperation operator (.ofReal x) ⟨re, im⟩
  | .complex re im, .int b => complexOperation operator ⟨re, im⟩ (.ofReal (← floatOfInt b))
  | .int a, .complex re im => complexOperation operator (.ofReal (← floatOfInt a)) ⟨re, im⟩
  | _, _ => return none

/-- A truth value from the operators that keep them. -/
def truthOperation (operator : BinaryOperator) (a b : Bool) : Option Value :=
  match operator with
  | .bitAnd => some (.bool (a && b))
  | .bitOr => some (.bool (a || b))
  | .bitXor => some (.bool (a != b))
  | _ => none

/-- Changes the set at an address. -/
def modifySet (address : Nat) (change : ValueSet → ValueSet) : Run Unit := fun w =>
  match w.heap[address]? with
  | some (.set s) =>
    let heap := w.heap.setIfInBounds address (.namespace [])
    .ok () { w with heap := heap.setIfInBounds address (.set (change s)) }
  | _ => .ok () w

/-- The set at an address. -/
def setAt (address : Nat) : Run ValueSet := do
  match ← cellAt address with
  | .set s => return s
  | _ => return ItemTable.empty

def newSet (s : ValueSet) : Run Value := alloc (.set s)

/-- The keys of a dict proper. -/
def dictKeys? (v : Value) : Run (Option (Array Value)) := do
  match ← cell? v with
  | some (.dict entries false) => return some (entries.map (·.1))
  | _ => return none

/-- Adds the items of a value to the set at an address, one by one if it is neither a set nor a dict. -/
def addItems (m : Interp) (address : Nat) (v : Value) : Run Unit := do
  match ← cell? v, ← dictKeys? v with
  | some (.set t), _ => if v.identical (.ref address) then return () else modifySet address (ValueSet.addAll · t)
  | _, some keys => modifySet address (ValueSet.addKeys · keys)
  | _, none =>
    forItems m v fun item => do
      checkHashable item
      modifySet address (ValueSet.with_ · item)

/-- Takes the items of a value out of the set at an address. -/
def removeItems (m : Interp) (address : Nat) (v : Value) : Run Unit := do
  match ← cell? v with
  | some (.set t) =>
    modifySet address fun s => if v.identical (.ref address) then { ItemTable.empty with finger := s.finger } else ValueSet.removeAll s t
  | _ =>
    forItems m v fun item => do
      checkHashable item
      modifySet address (ValueSet.without · item)
    modifySet address ItemTable.tidied

/-- A new set of the items of a value. -/
def setFrom (m : Interp) (v : Value) : Run Nat := do
  match ← newSet ItemTable.empty with
  | .ref address =>
    addItems m address v
    return address
  | _ => return 0

/-- The items of the set at an address that are among those of a value. -/
def sharedItems (m : Interp) (address : Nat) (v : Value) : Run ValueSet := do
  let s ← setAt address
  match ← cell? v with
  | some (.set t) => return if v.identical (.ref address) then s.copy else s.intersection t
  | _ => do
    let it ← iterator v
    foldItems m (fun (found : ValueSet) item => do
      checkHashable item
      return (if (← setAt address).has item then found.with_ item else found, false)) it ItemTable.empty

/-- The items of the set at an address that are not among those of a value. -/
def otherItems (m : Interp) (address : Nat) (v : Value) : Run Nat := do
  let s ← setAt address
  let copied : Run Nat := do
    let copy ← setFrom m (.ref address)
    removeItems m copy v
    return copy
  let made (t : ValueSet) : Run Nat := do
    match ← newSet t with
    | .ref copy => return copy
    | _ => return 0
  match ← cell? v, ← dictKeys? v with
  | some (.set t), _ => made (s.difference t)
  | _, some keys =>
    if keys.size < s.size / 4 then copied
    else made (ValueSet.ofItems (s.items.filter fun item => !keys.any item.sameKey))
  | _, none => copied

/-- Adds the items of a value where the set at an address lacks them, and takes them out where it has them. -/
def toggleItems (m : Interp) (address : Nat) (v : Value) : Run Unit := do
  match ← cell? v, ← dictKeys? v with
  | some (.set t), _ =>
    modifySet address fun s => if v.identical (.ref address) then { ItemTable.empty with finger := s.finger } else s.toggle t.items
  | _, some keys => modifySet address (ValueSet.toggle · keys)
  | _, none => do
    let other ← setAt (← setFrom m v)
    modifySet address (ValueSet.toggle · other.items)

/-- An operator on sets. -/
def setOperation (m : Interp) (operator : BinaryOperator) (a : Nat) (w : Value) : Run (Option Value) := do
  match operator with
  | .bitAnd => return some (← newSet (← sharedItems m a w))
  | .bitOr =>
    let s ← setFrom m (.ref a)
    if !w.identical (.ref a) then addItems m s w
    return some (.ref s)
  | .bitXor =>
    let s ← setFrom m w
    toggleItems m s (.ref a)
    return some (.ref s)
  | .subtract => return some (.ref (← otherItems m a w))
  | _ => return none

/-- Entries with one put in: in the place of its key if the key is there, else last. -/
def putEntry (entries : Array (Value × Value)) (key v : Value) : Array (Value × Value) :=
  match findKey? entries key with
  | some place => entries.modify place fun e => (e.1, v)
  | none => entries.push (key, v)

def putEntries (entries others : Array (Value × Value)) : Array (Value × Value) :=
  others.foldl (fun found e => putEntry found e.1 e.2) entries

/-- A duration that the calendar can hold. -/
def duration (micros : Int) : Run Value :=
  let d : Duration := ⟨micros⟩
  if d.inRange then return .duration d
  else if d.days ≥ 2 ^ 31 || d.days < -(2 ^ 31) then raise .overflowError "Python int too large to convert to C int"
  else raise .overflowError ("days=" ++ Text.ofInt d.days ++ "; must have magnitude <= 999999999")

/-- The nearest integer to a quotient, a half going to the even neighbour. -/
def roundedQuotient (a b : Int) : Int :=
  let n := Int.ofNat (roundDiv a.natAbs b.natAbs)
  if (a < 0) != (b < 0) then -n else n

/-- A floating-point number as a quotient of integers. -/
def exactRatio (x : Binary64) : Run (Int × Int) :=
  if x.isNaN then valueError "cannot convert NaN to integer ratio"
  else if x.isInfinite then raise .overflowError "cannot convert Infinity to integer ratio"
  else
    let (n, d) := x.ratio
    let g := Nat.gcd n d
    let n := n / g
    return (if x.isNegative then -Int.ofNat n else Int.ofNat n, Int.ofNat (d / g))

/-- A moment or a day moved by a duration. -/
def movedDay (d : Date) (days : Int) : Run Value :=
  let n := Int.ofNat d.ordinal + days
  if 1 ≤ n && n ≤ Int.ofNat Date.maxOrdinal then return .date (Date.ofOrdinal n.toNat)
  else raise .overflowError "date value out of range"

def movedMoment (m : Moment) (micros : Int) : Run Value :=
  match Moment.ofMicros? (m.micros + micros) m.clock.offset with
  | some m => return .moment m
  | none => raise .overflowError "date value out of range"

def noZero (n : Int) (words : Text) : Run Unit := if n == 0 then zeroDivision words else return ()

/-- An operator on durations, days and moments. -/
def calendarOperation (operator : BinaryOperator) (v w : Value) : Run (Option Value) := do
  let byZero : Text := "integer division or modulo by zero"
  match operator, v, w with
  | .add, .duration a, .duration b => return some (← duration (a.micros + b.micros))
  | .subtract, .duration a, .duration b => return some (← duration (a.micros - b.micros))
  | .add, .date d, .duration a | .add, .duration a, .date d => return some (← movedDay d a.days)
  | .subtract, .date d, .duration a => return some (← movedDay d (-a.days))
  | .subtract, .date d, .date e =>
    return some (← duration ((Int.ofNat d.ordinal - Int.ofNat e.ordinal) * Duration.microsPerDay))
  | .add, .moment m, .duration a | .add, .duration a, .moment m => return some (← movedMoment m a.micros)
  | .subtract, .moment m, .duration a => return some (← movedMoment m (-a.micros))
  | .subtract, .moment m, .moment n =>
    if m.clock.offset.isSome != n.clock.offset.isSome then
      typeError "can't subtract offset-naive and offset-aware datetimes"
    return some (← duration (m.absoluteMicros - n.absoluteMicros))
  | .divide, .duration a, .duration b => return some (← quotient a.micros b.micros)
  | .floorDivide, .duration a, .duration b =>
    noZero b.micros byZero
    return some (.int (a.micros.fdiv b.micros))
  | .modulo, .duration a, .duration b =>
    noZero b.micros "integer modulo by zero"
    return some (← duration (a.micros.fmod b.micros))
  | _, .duration a, _ =>
    match operator, w.int?, w with
    | .multiply, some n, _ => return some (← duration (a.micros * n))
    | .floorDivide, some n, _ =>
      noZero n byZero
      return some (← duration (a.micros.fdiv n))
    | .divide, some n, _ =>
      noZero n byZero
      return some (← duration (roundedQuotient a.micros n))
    | .multiply, none, .float x =>
      let (n, d) ← exactRatio x
      return some (← duration (roundedQuotient (a.micros * n) d))
    | .divide, none, .float x =>
      let (n, d) ← exactRatio x
      noZero n byZero
      return some (← duration (roundedQuotient (a.micros * d) n))
    | _, _, _ => return none
  | .multiply, _, .duration a =>
    match v.int?, v with
    | some n, _ => return some (← duration (a.micros * n))
    | none, .float x =>
      let (n, d) ← exactRatio x
      return some (← duration (roundedQuotient (a.micros * n) d))
    | _, _ => return none
  | _, _, _ => return none

/-- How often a row is to be repeated. -/
def repetitions (v : Value) (length : Nat) : Run Nat :=
  match v.int? with
  | none => typeErrorOf "can't multiply sequence by non-int of type '" v "'"
  | some n =>
    if n ≥ 2 ^ 63 || n < -(2 ^ 63) then raise .overflowError "cannot fit 'int' into an index-sized integer"
    else if n.toNat * length > 100000000 then raiseArgs .memoryError []
    else return n.toNat

def repeated {α : Type} (n : Nat) (items : List α) : List α := (List.replicate n items).flatten

/-- A row repeated, if the value is one. -/
def repeatedRow (row count : Value) : Run (Option Value) := do
  match row with
  | .text t => return some (.text (repeated (← repetitions count t.length) t))
  | .bytes b => return some (.bytes (repeated (← repetitions count b.length) b))
  | .tuple items mark =>
    let n ← repetitions count items.length
    return some (← if n == 1 then plainRow items mark else newTuple (repeated n items))
  | .ref address =>
    match ← cellAt address with
    | .list items => return some (← newList (repeated (← repetitions count items.size) items.toList))
    | _ => return none
  | _ => return none

/-- Two rows put together, if the first value is one. -/
def joinedRows (v w : Value) : Run (Option Value) := do
  match v with
  | .text s =>
    match w with
    | .text t => return some (.text (s ++ t))
    | _ => typeErrorOf "can only concatenate str (not \"" w "\") to str"
  | .tuple s m =>
    match w with
    | .tuple t n =>
      if t.isEmpty then return some (← plainRow s m)
      else if s.isEmpty then return some (← plainRow t n)
      else return some (← newTuple (s ++ t))
    | _ => typeErrorOf "can only concatenate tuple (not \"" w "\") to tuple"
  | .bytes s =>
    match w with
    | .bytes t => return some (.bytes (s ++ t))
    | _ => typeErrorOf "can't concat " w " to bytes"
  | .ref address =>
    match ← cellAt address with
    | .list s =>
      match ← cell? w with
      | some (.list t) => return some (← newArray (s ++ t))
      | _ => typeErrorOf "can only concatenate list (not \"" w "\") to list"
    | _ => return none
  | _ => return none

/-- Whether a value is a set of its own, and not a view. -/
def isSet (v : Value) : Run Bool := do
  match ← cell? v with
  | some (.set _) => return true
  | _ => return false

def isView (v : Value) : Run Bool := do
  match ← cell? v with
  | some (.view .keys _) | some (.view .items _) => return true
  | _ => return false

/-- The new set that an operand beside a view is taken for. -/
def operandSet (m : Interp) (v : Value) : Run Nat := do
  match ← cell? v with
  | some (.view .keys dict) => setFrom m (.ref dict)
  | _ => setFrom m v

/-- How many items a set, or a view that counts as one, has. -/
def operandSize (v : Value) : Run Nat := return (← length? v).getD 0

/-- The items that a view shares with another operand: those of the smaller one, if both are sets or views. -/
def viewIntersection (m : Interp) (v w : Value) : Run Value := do
  let (view, other) := if ← isView v then (v, w) else (w, v)
  match ← cell? other, other with
  | some (.set t), .ref address =>
    if (← operandSize view) ≤ t.size then return ← newSet (← sharedItems m address view)
  | _, _ => pure ()
  let isSmall := (← isView other) && (← operandSize view) < (← operandSize other)
  let (view, other) := if isSmall then (other, view) else (view, other)
  let s ← foldItems m (fun (found : ValueSet) item => do
    if ← setHas sameItem view item then
      checkHashable item
      return (found.with_ item, false)
    else return (found, false)) (← iterator other) ItemTable.empty
  newSet s

/-- The entries that two dicts do not share, as pairs: first those of the second dict, then what is left of the first. -/
def unsharedEntries (first second : Array (Value × Value)) : Run (Array (Value × Value)) := do
  let (found, left) ← second.foldlM (fun (found, left) (key, v) => do
    match findKey? left key with
    | none => return (Array.push found (key, v), left)
    | some place =>
      let isShared ← match left[place]? with
        | some (_, other) => sameItem other v
        | none => pure false
      return if isShared then (found, left.eraseIdxIfInBounds place) else (found.push (key, v), left))
    ((#[], first) : Array (Value × Value) × Array (Value × Value))
  return found ++ left

/-- An operator on views, which takes anything that can be gone through. -/
def viewOperation (m : Interp) (operator : BinaryOperator) (v w : Value) : Run (Option Value) := do
  match operator with
  | .bitAnd => return some (← viewIntersection m v w)
  | .bitOr =>
    let s ← operandSet m v
    addItems m s w
    return some (.ref s)
  | .bitXor =>
    match ← cell? v, ← cell? w with
    | some (.view .items d), some (.view .items e) =>
      let entries ← unsharedEntries ((← entries? (.ref d)).getD #[]) ((← entries? (.ref e)).getD #[])
      let pairs ← entries.toList.mapM fun (key, v) => newTuple [key, v]
      pairs.forM checkHashable
      return some (← newSet (ValueSet.ofItems pairs.toArray))
    | _, _ => do
      let s ← operandSet m v
      toggleItems m s w
      return some (.ref s)
  | .subtract =>
    let s ← operandSet m v
    removeItems m s w
    return some (.ref s)
  | _ => return none

/-- An operator on sets, views and dicts. -/
def collectionOperation (m : Interp) (operator : BinaryOperator) (v w : Value) : Run (Option Value) := do
  let isSetOperator := [BinaryOperator.bitAnd, .bitOr, .bitXor, .subtract].contains operator
  if !isSetOperator then return none
  if (← isView v) || (← isView w) then viewOperation m operator v w
  else match v, ← isSet v, ← isSet w with
    | .ref a, true, true => setOperation m operator a w
    | _, _, _ =>
      if operator == .bitOr then
        match ← entries? v, ← entries? w with
        | some s, some t => return some (← alloc (.dict (putEntries s t) false))
        | _, _ => return none
      else return none

/-- The types that a value stands for in a union, if it can stand in one. -/
def unionTypes? : Value → Option (List Value)
  | .none => some [.none]
  | .oneOf types _ => some types
  | v@(.type _) | v@(.generic _ _ _ _) => some [v]
  | _ => none

/-- Whether two types are one in a union: the very same, or equal ones with arguments. -/
def sameInUnion (v w : Value) : Run Bool := do
  match v, w with
  | .generic _ _ _ _, .generic _ _ _ _ => sameItem v w
  | _, _ => return v.identical w

/-- Types after those found, each once. -/
def distinctTypes (found : List Value) : List Value → Run (List Value)
  | [] => return found
  | v :: rest => do
    if ← found.anyM (sameInUnion v) then distinctTypes found rest else distinctTypes (found ++ [v]) rest

/-- The union of two values of which at least one is a type; of one type it is the type itself. -/
def typeUnion (v w : Value) : Run (Option Value) := do
  match v, w, unionTypes? v, unionTypes? w with
  | .none, .none, _, _ => return none
  | _, _, some s, some t =>
    match ← distinctTypes [] (s ++ t) with
    | [only] => return some only
    | types => return some (.oneOf types (← newMark))
  | _, _, _, _ => return none

/-- The complaint about two operands. -/
def refuseOperands {α : Type} (symbol : Text) (v w : Value) : Run α := do
  typeError ("unsupported operand type(s) for " ++ symbol ++ ": '" ++ (← typeName v) ++ "' and '"
    ++ (← typeName w) ++ "'")

/-- An operator on two values; `symbol` is how complaints show it. -/
def binaryAs (m : Interp) (get : Value → Value → Run Value) (symbol : Text) (operator : BinaryOperator)
    (v w : Value) : Run Value := do
  let fromNumbers ← match v, w with
    | .bool a, .bool b =>
      match truthOperation operator a b with
      | some r => pure (some r)
      | none => numberOperation operator (.int (if a then 1 else 0)) (.int (if b then 1 else 0))
    | _, _ => match v.numeral?, w.numeral? with
      | some a, some b => numberOperation operator a b
      | _, _ => pure none
  match fromNumbers with
  | some r => fresh r
  | none =>
  match ← collectionOperation m operator v w with
  | some r => return r
  | none =>
  match ← calendarOperation operator v w with
  | some r => return r
  | none =>
  let fromRows ← match operator, v with
    | .bitOr, _ => typeUnion v w
    | .add, _ => joinedRows v w
    | .multiply, _ =>
      match ← repeatedRow v w with
      | some r => pure (some r)
      | none => repeatedRow w v
    | .modulo, .text t => pure (some (.text (← fillTemplate get t w)))
    | .modulo, .bytes b => pure (some (.bytes (← fillOctetTemplate get b w)))
    | _, _ => pure none
  match fromRows with
  | some r => return r
  | none =>
    if operator == .bitOr && ((← isProxy v) || (← isProxy w)) then refuseOperands "|" (← unveiled v) (← unveiled w)
    else refuseOperands symbol v w

/-- How complaints show an operator. -/
def symbolOf (operator : BinaryOperator) : Text :=
  if operator == .power then "** or pow()" else Text.ofString operator.symbol

/-- An operator on two values. -/
def binary (m : Interp) (get : Value → Value → Run Value) (operator : BinaryOperator) (v w : Value) : Run Value :=
  binaryAs m get (symbolOf operator) operator v w

/-- The operators that may be joined to an assignment. -/
def mayAugment (operator : BinaryOperator) : Bool :=
  !([BinaryOperator.leftShift, .rightShift, .matrixMultiply].contains operator)

/-- Changes the entries of the dict at an address. -/
def modifyDict (address : Nat) (change : Array (Value × Value) → Array (Value × Value)) : Run Unit := fun w =>
  match w.heap[address]? with
  | some (.dict entries isExports) =>
    let heap := w.heap.setIfInBounds address (.namespace [])
    .ok () { w with heap := heap.setIfInBounds address (.dict (change entries) isExports) }
  | _ => .ok () w

/-- The two items of a pair that a dict is made from; `place` counts the pairs. -/
def pairOf (m : Interp) (place : Nat) (item : Value) : Run (Value × Value) := do
  let pair ← match ← catching (itemsOf m item) with
    | .ok pair => pure pair
    | .error error =>
      match ← cell? error with
      | some (.exception kind _ _) =>
        if kind.is .typeError then
          typeError ("cannot convert dictionary update sequence element #" ++ Text.ofNat place ++ " to a sequence")
        else raiseValue error
      | _ => raiseValue error
  match pair with
  | [k, v] => return (k, v)
  | _ => valueError ("dictionary update sequence element #" ++ Text.ofNat place ++ " has length "
      ++ Text.ofNat pair.length ++ "; 2 is required")

/-- Puts the entries of a dict, or pairs one by one, into the dict at an address. -/
def updateFrom (m : Interp) (address : Nat) (v : Value) : Run Unit := do
  match v, ← entries? v with
  | _, some entries => modifyDict address (putEntries · entries)
  -- The type has a function for keys, but no keys.
  | .type .dict, _ | .generic _ .dict _ _, _ => typeError "unbound method dict.keys() needs an argument"
  | _, none =>
    let _ ← foldItems m (fun (place : Nat) item => do
      let (k, value) ← pairOf m place item
      checkHashable k
      modifyDict address (putEntry · k value)
      return (place + 1, false)) (← iterator v) 0

/-- Changes the items of the list at an address. -/
def modifyList (address : Nat) (change : Array Value → Array Value) : Run Unit := fun w =>
  match w.heap[address]? with
  | some (.list items) =>
    let heap := w.heap.setIfInBounds address (.namespace [])
    .ok () { w with heap := heap.setIfInBounds address (.list (change items)) }
  | _ => .ok () w

/-- Puts the items of a value behind those of the list at an address. Items that are yet to be made come one by one. -/
def extendList (m : Interp) (address : Nat) (v : Value) : Run Unit := do
  match ← itemsAtHand? v with
  | some more => modifyList address fun items => more.foldl Array.push items
  | none => forItems m v fun item => modifyList address fun items => items.push item

/-- An operator joined to an assignment: a list, a set or a dict is changed in its place. -/
def augment (m : Interp) (get : Value → Value → Run Value) (operator : BinaryOperator) (v w : Value) : Run Value := do
  let symbol := Text.ofString operator.symbol ++ "="
  if !mayAugment operator then raise .syntaxError ("operator " ++ symbol ++ " is not allowed")
  let otherwise : Run Value := binaryAs m get symbol operator v w
  match v with
  | .ref address =>
    match ← cellAt address, operator, ← isSet w with
    | .list _, .add, _ =>
      extendList m address w
      return v
    | .list items, .multiply, _ =>
      let n ← repetitions w items.size
      setCell address (.list (repeated n items.toList).toArray)
      return v
    | .set _, .bitOr, true =>
      addItems m address w
      return v
    | .set _, .subtract, true =>
      removeItems m address w
      return v
    | .set _, .bitXor, true =>
      toggleItems m address w
      return v
    | .set s, .bitAnd, true =>
      let shared ← sharedItems m address w
      setCell address (.set { shared with finger := s.finger })
      return v
    | .dict _ _, .bitOr, _ =>
      updateFrom m address w
      return v
    | .proxy _, .bitOr, _ => typeErrorOf "'|=' is not supported by " v "; use '|' instead"
    | _, _, _ => otherwise
  | _ => otherwise

/-- An operator on one value. -/
def unary (operator : UnaryOperator) (v : Value) : Run Value := do
  let refuse (symbol : Text) : Run Value := typeErrorOf ("bad operand type for unary " ++ symbol ++ ": '") v "'"
  match operator with
  | .not => return .bool (!(← truth v))
  | .negative =>
    match v with
    | .float x => fresh (.float x.neg)
    | .complex re im => fresh (.complex re.neg im.neg)
    | .duration d => duration (-d.micros)
    | _ => match v.int? with
      | some n => return .int (-n)
      | none => refuse "-"
  | .positive =>
    match v with
    | .float _ | .complex _ _ | .duration _ => return v
    | _ => match v.int? with
      | some n => return .int n
      | none => refuse "+"
  | .invert =>
    match v.int? with
    | some n => return .int (Bits.complement n)
    | none => refuse "~"

end Run

end PhaseScript.Machine
