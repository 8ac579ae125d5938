import PhaseScript.Machine.Construct
import PhaseScript.Machine.JsonFunctions
/-
The functions that every script can call.
-/
set_option autoImplicit false

namespace PhaseScript.Machine

namespace Run

/-- The distance of a number from zero. -/
def absolute (v : Value) : Run Value := do
  match v with
  | .float x => fresh (.float x.abs)
  | .complex re im => do
    let z : Complex := ⟨re, im⟩
    if z.isFinite && z.magnitude.isInfinite then raise .overflowError "absolute value too large"
    return .float z.magnitude
  | .duration d => duration d.micros.natAbs
  | _ => match v.int? with
    | some n => return .int n.natAbs
    | none => typeErrorOf "bad operand type for abs(): '" v "'"

/-- Whether a value that ends the search is among the truths of some items. -/
def searchTruth (m : Interp) (sought : Bool) (v : Value) : Run Bool := do
  foldItems m (fun _ w => do
    let found := (← truth w) == sought
    return (found, found)) (← iterator v) false

/-- The quotient rounded down and what is left. -/
def quotientAndRest (m : Interp) (v w : Value) : Run Value := do
  let both (q r : Option Value) : Run Value :=
    match q, r with
    | some q, some r => newTuple [q, r]
    | _, _ => refuseOperands "divmod()" v w
  match v.numeral?, w.numeral? with
  | some a, some b =>
    let isFloat := match a, b with
      | .float _, .float _ | .float _, .int _ | .int _, .float _ => true
      | _, _ => false
    let isZero := match b with
      | .float y => y.isZero
      | .int n => n == 0
      | _ => false
    if isFloat && isZero then zeroDivision "float divmod()"
    both (← numberOperation .floorDivide a b) (← numberOperation .modulo a b)
  | _, _ => match v, w with
    | .duration _, .duration _ => both (← calendarOperation .floorDivide v w) (← calendarOperation .modulo v w)
    | _, _ => do
      let _ := m
      both none none

/-- The number by which sets and dicts could find a value. -/
def hashOf (v : Value) : Run Value := do
  checkHashable v
  return .int (hashNumber v)

/-- A number for the identity of a value. -/
def identityOf (v : Value) : Value :=
  match v with
  | .ref address => .int (Int.ofNat (address * 16 + 140000000000000))
  | .promise number _ _ => .int (Int.ofNat (number * 16 + 150000000000000))
  | _ => .int 94000000000000

/-- The text of an integer in a base, with the letter of the base in front. -/
def inBase (base : Nat) (lead : Text) (v : Value) : Run Value := do
  let n ← index v
  return .text ((if n < 0 then ("-" : Text) else []) ++ lead ++ Text.ofNatBase base n.natAbs)

/-- Whether a value is of a type or of one below it. -/
def isInstance (v : Value) (t : TypeName) : Run Bool := do
  match t, v with
  | .object, _ => return true
  | .bool, .bool _ | .int, .bool _ | .int, .int _ | .float, .float _ | .complex, .complex _ _ | .text, .text _
  | .tuple, .tuple _ _ | .range, .range _ _ _ | .slice, .slice _ _ _ | .date, .date _ | .date, .moment _
  | .moment, .moment _ | .clock, .clock _ | .duration, .duration _ => return true
  | _, .ref address =>
    match t, ← cellAt address with
    | .list, .list _ | .dict, .dict _ _ | .set, .set _ | .session, .session _ _ => return true
    | .enumerate, .iterator name _ | .map, .iterator name _ | .filter, .iterator name _ => return name.is t.name
    | .exception kind, .exception of_ _ _ => return of_.is kind
    | _, _ => return false
  | _, _ => return false

/-- Whether a type is another or below it. -/
def isBelow (t u : TypeName) : Bool := t.lineage.contains u

/-- A test for a type: what it says of a type, of the type of `None`, and of what is no type; and the name of the
function. -/
structure TypeTest where
  name : Text
  ofType : TypeName → Run Bool
  ofNone : Run Bool
  ofOther : Run Bool

mutual

/-- Tests for a type, for one of several, or for one of the types in a row. -/
def testTypes (test : TypeTest) : Value → Run Bool
  | .type t => test.ofType t
  | .tuple items _ => testAnyType test items
  | .oneOf types _ => testMembers test types
  | .generic _ _ _ _ => typeError (test.name ++ "() argument 2 cannot be a parameterized generic")
  | _ => test.ofOther

def testAnyType (test : TypeTest) : List Value → Run Bool
  | [] => return false
  | v :: rest => do if ← testTypes test v then return true else testAnyType test rest

def testMembers (test : TypeTest) : List Value → Run Bool
  | [] => return false
  | .none :: rest => do if ← test.ofNone then return true else testMembers test rest
  | v :: rest => do if ← testTypes test v then return true else testMembers test rest

end

/-- The test whether a value is of a type. -/
def instanceTest (v : Value) : TypeTest where
  name := "isinstance"
  ofType := isInstance v
  ofNone := return v.identical .none
  ofOther := typeError "isinstance() arg 2 must be a type, a tuple of types, or a union"

/-- The test whether a type is below another. A type with arguments is below nothing but what everything is. -/
def belowTest (v : Value) : TypeTest where
  name := "issubclass"
  ofType u := checked fun t isPlain => return (isPlain || u != t) && isBelow t u
  ofNone := checked fun _ _ => return false
  ofOther := checked fun _ _ => typeError "issubclass() arg 2 must be a class, a tuple of classes, or a union"
where
  checked (test : TypeName → Bool → Run Bool) : Run Bool :=
    match v with
    | .type t => test t true
    | .generic _ t _ _ => test t false
    | _ => typeError "issubclass() arg 1 must be a class"

/-- The length of a value. -/
def lengthOf (v : Value) : Run Value := do
  match ← length? v with
  | some n => return .int n
  | none => typeErrorOf "object of type '" v "' has no len()"

/-- The first of the greatest or least values by their keys. -/
def extreme (m : Interp) (name : Text) (operator : Script.Comparison) (args : List Value)
    (named : List (Text × Value)) : Run Value := do
  if args.isEmpty then typeError (name ++ " expected at least 1 argument, got 0")
  match named.find? fun n => !(n.1.is "key" || n.1.is "default") with
  | some (other, _) => typeError ("'" ++ other ++ "' is an invalid keyword argument for " ++ name ++ "()")
  | none => pure ()
  let key := (getNamed? named "key").getD .none
  let otherwise := getNamed? named "default"
  if 1 < args.length && otherwise.isSome then
    typeError ("Cannot specify a default for " ++ name ++ "() with multiple positional arguments")
  let source ← match args with
    | [v] => pure v
    | _ => pure (.tuple args .items)
  let best ← foldItems m (fun (best : Option (Value × Value)) v => do
    let rank ← match key with
      | .none => pure v
      | f => m.apply f [v]
    match best with
    | none => return (some (rank, v), false)
    | some (top, _) => return (if ← order operator rank top then some (rank, v) else best, false))
    (← iterator source) none
  match best, otherwise with
  | some (_, v), _ => return v
  | none, some v => return v
  | none, none => valueError (name ++ "() arg is an empty sequence")

/-- The code point of a text of one. -/
def ordinal (v : Value) : Run Value := do
  match v with
  | .text [p] => return .int (Int.ofNat p.val)
  | .text t => typeError ("ord() expected a character, but string of length " ++ Text.ofNat t.length ++ " found")
  | .bytes [b] => return .int (Int.ofNat b.toNat)
  | .bytes b => typeError ("ord() expected a character, but string of length " ++ Text.ofNat b.length ++ " found")
  | _ => typeErrorOf "ord() expected string of length 1, but " v " found"

/-- A number whose product with another leaves one, if there is one; by the steps of the Euclidean algorithm. -/
def inverse? (fuel : Nat) (r newR t newT modulus : Int) : Option Int :=
  match fuel with
  | 0 => none
  | fuel + 1 =>
    if newR == 0 then (if r == 1 then some (t.emod modulus) else none)
    else inverse? fuel newR (r - r / newR * newR) newT (t - r / newR * newT) modulus

/-- A power reduced at each step; the fuel is the number of bits of the exponent. -/
def reducedPower (modulus : Nat) : Nat → Nat → Nat → Nat → Nat
  | 0, _, _, found => found
  | fuel + 1, base, exponent, found =>
    if exponent == 0 then found
    else reducedPower modulus fuel (base * base % modulus) (exponent / 2)
      (if exponent % 2 == 1 then found * base % modulus else found)

/-- The complaint of one of the three numbers of a reduced power that are not all integers: a floating-point number
complains at once, a complex one after it has read the base and the exponent, and the others leave it to the next. -/
def refuseModulus (v base exponent : Value) : Run Unit := do
  match v with
  | .float _ => typeError "pow() 3rd argument not allowed unless all arguments are integers"
  | .complex _ _ =>
    let isRead (w : Value) : Run Bool := do
      if let some n := w.int? then discard (floatOfInt n)
      return w.numeral?.isSome
    if ← isRead base then
      if ← isRead exponent then valueError "complex modulo"
  | _ => return

/-- A power, or with a third number what it leaves on division. -/
def power (m : Interp) (base exponent modulus : Value) : Run Value := do
  match modulus with
  | .none => binaryAs m item "** or pow()" .power base exponent
  | _ =>
    match base.int?, exponent.int?, modulus.int? with
    | some b, some e, some k => do
      if k == 0 then valueError "pow() 3rd argument cannot be 0"
      let size := k.natAbs
      let start : Int ← if e < 0 then
          match inverse? (2 * Bits.length k + 10) size (b.emod size) 0 1 size with
          | some n => pure n
          | none => valueError "base is not invertible for the given modulus"
        else pure (b.emod size)
      let n := reducedPower size (Bits.length e + 1) start.toNat e.natAbs (1 % size)
      return .int (if k < 0 && n != 0 then Int.ofNat n + k else Int.ofNat n)
    | _, _, _ => do
      for v in [base, exponent, modulus] do
        refuseModulus v base exponent
      typeError ("unsupported operand type(s) for ** or pow(): '" ++ (← typeName base) ++ "', '"
        ++ (← typeName exponent) ++ "', '" ++ (← typeName modulus) ++ "'")

/-- A floating-point number rounded to decimal places. -/
def roundedFloat (x : Binary64) (places : Int) : Run Value := do
  if !x.isFinite || x.isZero || places > 323 then return ← fresh (.float x)
  if places < -308 then return .float (Binary64.ofParts x.isNegative 0)
  let (n, d) := x.ratio
  let r := if places ≥ 0 then Binary64.ofRatio x.isNegative (roundDiv (n * 10 ^ places.toNat) d) (10 ^ places.toNat)
    else
      let unit := 10 ^ (-places).toNat
      Binary64.ofRatio x.isNegative (roundDiv n (d * unit) * unit) 1
  if r.isInfinite then raise .overflowError "rounded value too large to represent"
  return .float r

/-- A number rounded, a half going to the even neighbour. -/
def rounded (args : List (Option Value)) : Run Value := do
  match argument args 0, argument args 1 with
  | .float x, .none => return .int (← integerPart (if x.isFinite then .ofInt x.roundInt else x))
  | .float x, places => do roundedFloat x (← index places)
  | v, places =>
    match v.int? with
    | none => typeErrorOf "type " v " doesn't define __round__ method"
    | some n =>
      match places with
      | .none => return .int n
      | _ => do
        let places ← index places
        if places ≥ 0 then return .int n
        if Int.ofNat (Bits.length n) < -places then return .int 0
        let unit : Int := 10 ^ (-places).toNat
        return .int (roundedQuotient n unit * unit)

/-- The sum of items, from a start. -/
def sumOf (m : Interp) (v start : Value) : Run Value := do
  let items ← iterator v
  match start with
  | .text _ => typeError "sum() can't sum strings [use ''.join(seq) instead]"
  | .bytes _ => typeError "sum() can't sum bytes [use b''.join(seq) instead]"
  | _ => pure ()
  foldItems m (fun total w => do return (← binaryAs m item "+" .add total w, false)) items start

/-- The name of an attribute that is given as a value. -/
def attributeName (v : Value) : Run Text :=
  match v with
  | .text t => return t
  | _ => typeErrorOf "attribute name must be string, not '" v "'"

def setattrSignature : Signature Value :=
  ⟨"guarded_setattr", [⟨"object", .positional, none⟩, ⟨"name", .positional, none⟩, ⟨"value", .positional, none⟩]⟩

def delattrSignature : Signature Value :=
  ⟨"guarded_delattr", [⟨"object", .positional, none⟩, ⟨"name", .positional, none⟩]⟩

/-- Whether a value can be given attributes at all. -/
def isWritable (v : Value) : Run Bool := do
  match ← cell? v with
  | some (.dict _ _) | some (.list _) => return true
  | _ => return false

/-- How a core function takes its arguments. -/
def coreIntake (f : CoreFunction) : Intake :=
  match f with
  | .divmod | .isinstance | .issubclass => .span 2 2
  | .pow => .named ⟨["base", "exp", "mod"], 2, 0, 3⟩
  | .round => .named ⟨["number", "ndigits"], 1, 0, 2⟩
  | .sum => .named ⟨["", "start"], 1, 1, 2⟩
  | .sorted | .max | .min | .setattr | .delattr => .any
  | _ => .single

/-- Calls a core function. -/
def callCore (m : Interp) (f : CoreFunction) (args : List Value) (named : List (Text × Value)) : Run Value := do
  match f with
  | .max => extreme m "max" .greater args named
  | .min => extreme m "min" .less args named
  | .sorted =>
    checkSpan "sorted" 1 1 args.length
    let items ← itemsOf m (args.getD 0 .none)
    let taken ← takeNamed "sort()" ⟨["key", "reverse"], 0, 0, 0⟩ [] named
    let isReversed ← isTurned taken 1
    let list ← newList items
    match list with
    | .ref address => sortList m address (argument taken 0) isReversed
    | _ => pure ()
    return list
  | .setattr =>
    let bound ← bindPlain setattrSignature args named
    let object := boundOne bound 0
    if !(← isWritable object) then refuseAttributeWrite
    setAttribute object (← attributeName (boundOne bound 1)) (boundOne bound 2)
    return .none
  | .delattr =>
    let bound ← bindPlain delattrSignature args named
    let object := boundOne bound 0
    if !(← isWritable object) then refuseAttributeWrite
    eraseAttribute object (← attributeName (boundOne bound 1))
    return .none
  | _ =>
    let taken ← takeArguments (coreIntake f) (Text.ofString f.name) (Text.ofString f.name) args named
    let v := argument taken 0
    match f with
    | .abs => absolute v
    | .all => return .bool (!(← searchTruth m false v))
    | .any => return .bool (← searchTruth m true v)
    | .callable => return .bool (← isCallable v)
    | .chr => do
      let n ← wordIndex v
      if n < 0 || n > 0x10FFFF then valueError "chr() arg not in range(0x110000)"
      return .text [Point.ofNat n.toNat]
    | .divmod => quotientAndRest m v (argument taken 1)
    | .hash => hashOf v
    | .hex => inBase 16 "0x" v
    | .oct => inBase 8 "0o" v
    | .id => return identityOf v
    | .isinstance => do return .bool (← testTypes (instanceTest v) (argument taken 1))
    | .issubclass => do return .bool (← testTypes (belowTest v) (argument taken 1))
    | .len => lengthOf v
    | .ord => ordinal v
    | .pow => power m v (argument taken 1) (argument taken 2)
    | .repr => return .text (← quotedText v)
    | .round => rounded taken
    | .sum => sumOf m v ((given? taken 1).getD (.int 0))
    | _ => return .none

end Run

end PhaseScript.Machine
