import PhaseScript.Machine.Construct
/-
The functions of the module of mathematics.
-/
set_option autoImplicit false

namespace PhaseScript.Machine

namespace Run

/-- The floating-point number that an argument stands for. -/
def realOf (v : Value) : Run Binary64 :=
  match v with
  | .float x => return x
  | _ => match v.int? with
    | some n => floatOfInt n
    | none => typeErrorOf "must be real number, not " v []

def domainError {α : Type} : Run α := valueError "math domain error"

def rangeError {α : Type} : Run α := raise .overflowError "math range error"

/-- The result of a function of real numbers. A result that is no number has an argument outside the domain; an
infinite one is out of range, unless an argument was infinite. -/
def checkedReal (args : List Binary64) (result : Binary64) : Run Value :=
  if result.isNaN && !args.any Binary64.isNaN then domainError
  else if result.isInfinite && args.all Binary64.isFinite then rangeError
  else return .float result

/-- A function of one real number. -/
def realFunction (name : String) (f : Float → Float) : Method Unit :=
  ⟨name, .single, fun _ _ args => do
    let x ← realOf (argument args 0)
    checkedReal [x] (.ofFloat (f x.toFloat))⟩

/-- A function of two real numbers. -/
def realFunction2 (name : String) (f : Binary64 → Binary64 → Binary64) : Method Unit :=
  ⟨name, .span 2 2, fun _ _ args => do
    let x ← realOf (argument args 0)
    let y ← realOf (argument args 1)
    checkedReal [x, y] (f x y)⟩

/-- A test of a real number. -/
def realTest (name : String) (f : Binary64 → Bool) : Method Unit :=
  ⟨name, .single, fun _ _ args => do return .bool (f (← realOf (argument args 0)))⟩

/-- A rounding of a real number to an integer. -/
def roundingTo (name : String) (f : Binary64 → Int) : Method Unit :=
  ⟨name, .single, fun _ _ args => do
    match argument args 0 with
    | .float x => return .int (← integerPart (if x.isFinite then .ofInt (f x) else x))
    | v => match v.int? with
      | some n => return .int n
      | none => typeErrorOf "must be real number, not " v []⟩

/-- The logarithm of an integer or a real number: integers may be of any size. -/
def logarithm (f : Float → Float) (v : Value) : Run Binary64 := do
  match v.int? with
  | some n =>
    if n ≤ 0 then domainError
    let excess := Bits.length n - 900
    let head := Binary64.ofInt (Bits.shiftDown n excess)
    return .ofFloat (f head.toFloat + Float.ofNat excess * f 2)
  | none => do
    let x ← realOf v
    if x.isZero || (x.isNegative && !x.isNaN) then domainError
    return .ofFloat (f x.toFloat)

/-- The greatest integer whose square is no greater, between two bounds; the fuel is the number of bits. -/
def squareRoot (n : Nat) : Nat → Nat → Nat → Nat
  | 0, low, _ => low
  | fuel + 1, low, high =>
    if high ≤ low + 1 then low
    else
      let middle := (low + high) / 2
      if middle * middle ≤ n then squareRoot n fuel middle high else squareRoot n fuel low middle

/-- The product of so many numbers that go down by one. -/
def fallingProduct (n : Nat) : Nat → Nat
  | 0 => 1
  | k + 1 => fallingProduct n k * (n - k)

/-- Two integers for choosing some of many. -/
def choiceOf (args : List (Option Value)) : Run (Nat × Nat) := do
  let n ← index (argument args 0)
  let k ← match argument args 1 with
    | .none => pure n
    | v => index v
  if n < 0 then valueError "n must be a non-negative integer"
  if k < 0 then valueError "k must be a non-negative integer"
  return (n.toNat, k.toNat)

/-- The exact sum of floating-point numbers, rounded once. -/
def exactSum (xs : List Binary64) : Binary64 :=
  let scale : Int := 1074
  let total : Int := (xs.map fun x =>
    let n : Int := x.mantissa * 2 ^ (x.scale + scale).toNat
    if x.isNegative then -n else n).foldl (· + ·) 0
  Binary64.ofRatio (total < 0) total.natAbs (2 ^ 1074)

/-- The length of a row of numbers as the sides of a box. -/
def lengthOfSides (xs : List Binary64) : Binary64 :=
  let squares := xs.map fun x => x.mul x
  .ofFloat (Float.sqrt (squares.foldl Binary64.add Binary64.zero).toFloat)

/-- Whether two numbers are as close as asked. -/
def closeTo (args : List (Option Value)) : Run Value := do
  let x ← realOf (argument args 0)
  let y ← realOf (argument args 1)
  let tolerance (place : Nat) (otherwise : Float) : Run Float :=
    match given? args place with
    | some v => do return (← realOf v).toFloat
    | none => return otherwise
  let relative ← tolerance 2 1e-9
  let least ← tolerance 3 0.0
  if relative < 0.0 || least < 0.0 then valueError "tolerances must be non-negative"
  if x.eq y then return .bool true
  if x.isInfinite || y.isInfinite then return .bool false
  let (a, b) := (x.toFloat, y.toFloat)
  let distance := (b - a).abs
  return .bool (distance ≤ (relative * b).abs || distance ≤ (relative * a).abs || distance ≤ least)

/-- The first with the sign of the second. -/
def withSign (x y : Binary64) : Binary64 := if x.isNegative == y.isNegative then x else x.neg

/-- A number as a fraction between a half and one, and a power of two. -/
def fractionAndExponent (x : Binary64) : Run Value :=
  if x.isZero || !x.isFinite then newTuple [.float x, .int 0]
  else
    let size := x.mantissa.log2 + 1
    newTuple [.float (Binary64.ofRatio x.isNegative x.mantissa (2 ^ size)), .int (x.scale + size)]

/-- The functions of mathematics. -/
def mathFunctions : List (Method Unit) := [
  realFunction "sqrt" Float.sqrt, realFunction "exp" Float.exp, realFunction "exp2" Float.exp2,
  realFunction "expm1" (fun x => if x.abs < 1e-5 then x + x * x / 2 + x * x * x / 6 else Float.exp x - 1),
  realFunction "sin" Float.sin, realFunction "cos" Float.cos, realFunction "tan" Float.tan,
  realFunction "asin" Float.asin, realFunction "acos" Float.acos, realFunction "atan" Float.atan,
  realFunction "sinh" Float.sinh, realFunction "cosh" Float.cosh, realFunction "tanh" Float.tanh,
  realFunction "asinh" Float.asinh, realFunction "acosh" Float.acosh, realFunction "atanh" Float.atanh,
  realFunction "cbrt" Float.cbrt, realFunction "fabs" Float.abs,
  realFunction "degrees" (fun x => x * (180.0 / 3.141592653589793)),
  realFunction "radians" (fun x => x * (3.141592653589793 / 180.0)),
  realFunction2 "atan2" (fun y x => .ofFloat (Float.atan2 y.toFloat x.toFloat)),
  realFunction2 "pow" (fun x y => .ofFloat (Float.pow x.toFloat y.toFloat)),
  realFunction2 "fmod" Binary64.truncMod,
  ⟨"copysign", .span 2 2, fun _ _ args => do
    return .float (withSign (← realOf (argument args 0)) (← realOf (argument args 1)))⟩,
  roundingTo "floor" Binary64.floor, roundingTo "ceil" Binary64.ceil, roundingTo "trunc" Binary64.truncate,
  realTest "isnan" Binary64.isNaN, realTest "isinf" Binary64.isInfinite, realTest "isfinite" Binary64.isFinite,
  ⟨"isclose", .named ⟨["a", "b", "rel_tol", "abs_tol"], 2, 0, 2⟩, fun _ _ args => closeTo args⟩,
  ⟨"log", .span 1 2, fun _ _ args => do
    let x ← logarithm Float.log (argument args 0)
    match given? args 1 with
    | none => return .float x
    | some base => do
      let y ← logarithm Float.log base
      if y.isZero then zeroDivision "float division by zero"
      return .float (x.div y)⟩,
  ⟨"log2", .single, fun _ _ args => do return .float (← logarithm Float.log2 (argument args 0))⟩,
  ⟨"log10", .single, fun _ _ args => do return .float (← logarithm Float.log10 (argument args 0))⟩,
  realFunction "log1p" (fun x => if x.abs < 1e-5 then x - x * x / 2 + x * x * x / 3 else Float.log (1 + x)),
  ⟨"gcd", .many, fun _ _ args => do
    let ns ← args.mapM fun v => index (v.getD .none)
    return .int (Int.ofNat (ns.foldl (fun g n => Nat.gcd g n.natAbs) 0))⟩,
  ⟨"lcm", .many, fun _ _ args => do
    let ns ← args.mapM fun v => index (v.getD .none)
    return .int (Int.ofNat (ns.foldl (fun g n => Nat.lcm g n.natAbs) 1))⟩,
  ⟨"factorial", .single, fun _ _ args => do
    let n ← index (argument args 0)
    if n < 0 then valueError "factorial() not defined for negative values"
    return .int (Int.ofNat (fallingProduct n.toNat n.toNat))⟩,
  ⟨"comb", .span 2 2, fun _ _ args => do
    let (n, k) ← choiceOf args
    return .int (Int.ofNat (if n < k then 0 else fallingProduct n k / fallingProduct k k))⟩,
  ⟨"perm", .span 1 2, fun _ _ args => do
    let (n, k) ← choiceOf args
    return .int (Int.ofNat (if n < k then 0 else fallingProduct n k))⟩,
  ⟨"isqrt", .single, fun _ _ args => do
    let n ← index (argument args 0)
    if n < 0 then valueError "isqrt() argument must be nonnegative"
    return .int (Int.ofNat (squareRoot n.toNat (Bits.length n + 2) 0 (2 ^ (Bits.length n / 2 + 1))))⟩,
  ⟨"hypot", .many, fun _ _ args => do
    return .float (lengthOfSides (← args.mapM fun v => realOf (v.getD .none)))⟩,
  ⟨"fsum", .single, fun m _ args => do
    let xs ← (← itemsOf m (argument args 0)).mapM realOf
    if xs.all Binary64.isFinite then return .float (exactSum xs)
    else return .float (xs.foldl Binary64.add Binary64.zero)⟩,
  ⟨"prod", .named ⟨["", "start"], 1, 1, 1⟩, fun m _ args => do
    foldItems m (fun total w => do return (← binaryAs m item "*" .multiply total w, false))
      (← iterator (argument args 0)) ((given? args 1).getD (.int 1))⟩,
  ⟨"modf", .single, fun _ _ args => do
    let x ← realOf (argument args 0)
    if x.isNaN then return ← newTuple [.float x, .float x]
    if x.isInfinite then return ← newTuple [.float (withSign Binary64.zero x), .float x]
    let whole := withSign (Binary64.ofInt x.truncate) x
    newTuple [.float (withSign (x.sub whole) x), .float whole]⟩,
  ⟨"frexp", .single, fun _ _ args => do fractionAndExponent (← realOf (argument args 0))⟩,
  ⟨"ldexp", .span 2 2, fun _ _ args => do
    let x ← realOf (argument args 0)
    let places ← match (argument args 1).int? with
      | some n => pure n
      | none => typeError "Expected an int as second argument to ldexp."
    if x.isZero || !x.isFinite then return .float x
    if places > 5000 then rangeError
    if places < -5000 then return .float (withSign Binary64.zero x)
    let (n, d) := x.ratio
    let y := if places < 0 then Binary64.ofRatio x.isNegative n (d * 2 ^ places.natAbs)
      else Binary64.ofRatio x.isNegative (n * 2 ^ places.toNat) d
    checkedReal [x] y⟩]

/-- The numbers that have a name in mathematics. -/
def mathConstants : List (Text × Value) :=
  [("pi", .float (.ofFloat 3.141592653589793)), ("e", .float (.ofFloat 2.718281828459045)),
    ("tau", .float (.ofFloat 6.283185307179586)), ("inf", .float (Binary64.infinity false)),
    ("nan", .float (Binary64.nan.marked 2))]

/-- What the module of mathematics holds. -/
def mathEntries : List (Text × Value) :=
  mathConstants ++ mathFunctions.map fun f => (Text.ofString f.name, .builtin (.math (Text.ofString f.name)))

/-- Calls a function of mathematics. -/
def callMath (m : Interp) (name : Text) (args : List Value) (named : List (Text × Value)) : Run Value :=
  match findMethod? mathFunctions name with
  | some f => do fresh (← f.call "math" m () args named)
  | none => return .none

end Run

end PhaseScript.Machine
