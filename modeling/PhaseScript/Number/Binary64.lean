import PhaseScript.Number.Bits
/-
Floating-point numbers of sixty-four bits. A number is its bits; its exact value is a whole number times a power
of two, and `ofRatio` is the way back, correctly rounded: division with a rule for what lies between two whole numbers.
Sums, products and quotients are the machine's; what needs exactness (comparison with integers, remainders, conversion)
is done on whole numbers.
-/
set_option autoImplicit false

namespace PhaseScript

/-- The whole number nearest to a quotient, a half going to the even neighbour. -/
def roundDiv (numerator denominator : Nat) : Nat :=
  let quotient := numerator / denominator
  let twice := 2 * (numerator % denominator)
  if twice < denominator then quotient
  else if denominator < twice then quotient + 1
  else if quotient % 2 == 0 then quotient else quotient + 1

/-- A rounded quotient is within half a unit of the exact one. -/
theorem roundDiv_near (numerator denominator : Nat) (positive : 0 < denominator) :
    2 * (roundDiv numerator denominator * denominator) ≤ 2 * numerator + denominator
      ∧ 2 * numerator ≤ 2 * (roundDiv numerator denominator * denominator) + denominator := by
  have split := Nat.div_add_mod numerator denominator
  have small := Nat.mod_lt numerator positive
  have shape : denominator * (numerator / denominator) = numerator / denominator * denominator :=
    Nat.mul_comm ..
  have next : (numerator / denominator + 1) * denominator
      = numerator / denominator * denominator + denominator := by rw [Nat.add_mul, Nat.one_mul]
  unfold roundDiv
  dsimp only
  repeat' split
  all_goals omega

/-- The quotient of two integers rounded down, where the divisor is not zero. -/
def floorDiv (a b : Int) : Int := Int.fdiv a b

/-- What is left of the division rounded down; it has the sign of the divisor. -/
def floorMod (a b : Int) : Int := Int.fmod a b

/-- A number of the binary interchange format of sixty-four bits. -/
structure Binary64 where
  bits : UInt64
  deriving DecidableEq, Repr, Inhabited

namespace Binary64

def toFloat (x : Binary64) : Float := Float.ofBits x.bits

def ofFloat (x : Float) : Binary64 := ⟨x.toBits⟩

/-- The sign bit. -/
def isNegative (x : Binary64) : Bool := 2 ^ 63 ≤ x.bits.toNat

/-- The eleven bits of the exponent. -/
def exponentField (x : Binary64) : Nat := x.bits.toNat / 2 ^ 52 % 2 ^ 11

/-- The fifty-two bits of the fraction. -/
def fraction (x : Binary64) : Nat := x.bits.toNat % 2 ^ 52

def isFinite (x : Binary64) : Bool := x.exponentField != 2047

def isNaN (x : Binary64) : Bool := x.exponentField == 2047 && x.fraction != 0

def isInfinite (x : Binary64) : Bool := x.exponentField == 2047 && x.fraction == 0

def isZero (x : Binary64) : Bool := x.bits.toNat % 2 ^ 63 == 0

/-- The whole number of a finite number's magnitude `mantissa * 2 ^ scale`. -/
def mantissa (x : Binary64) : Nat :=
  if x.exponentField == 0 then x.fraction else x.fraction + 2 ^ 52

/-- The power of two of a finite number's magnitude. -/
def scale (x : Binary64) : Int :=
  if x.exponentField == 0 then -1074 else Int.ofNat x.exponentField - 1075

/-- A sign and the bits of a magnitude. -/
def ofParts (negative : Bool) (magnitude : Nat) : Binary64 :=
  ⟨UInt64.ofNat (if negative then magnitude + 2 ^ 63 else magnitude)⟩

def zero : Binary64 := ⟨0⟩

def infinity (negative : Bool) : Binary64 := ofParts negative (2047 * 2 ^ 52)

def nan : Binary64 := ofParts false (2047 * 2 ^ 52 + 2 ^ 51)

/-- A NaN with the same sign that is told apart from others by a mark. -/
def marked (x : Binary64) (mark : Nat) : Binary64 :=
  ofParts x.isNegative (2047 * 2 ^ 52 + 2 ^ 51 + mark % 2 ^ 51)

/-- The bits of the magnitude `mantissa * 2 ^ scale`, where the mantissa has at most fifty-three bits, and fewer
only at the lowest scale; a mantissa of fifty-four bits is a power of two that rounding made. -/
def packMagnitude (mantissa : Nat) (scale : Int) : Nat :=
  if mantissa < 2 ^ 52 then mantissa
  else
    let (mantissa, scale) := if mantissa == 2 ^ 53 then (2 ^ 52, scale + 1) else (mantissa, scale)
    if scale + 1075 ≥ 2047 then 2047 * 2 ^ 52
    else (scale + 1075).toNat * 2 ^ 52 + (mantissa - 2 ^ 52)

/-- `numerator / denominator * 2 ^ (-scale)`, rounded to a whole number. -/
def scaled (numerator denominator : Nat) (scale : Int) : Nat :=
  if scale ≥ 0 then roundDiv numerator (denominator * 2 ^ scale.toNat)
  else roundDiv (numerator * 2 ^ (-scale).toNat) denominator

/-- The scale at which a quotient has fifty-three bits before the point, or the lowest scale. -/
def scaleFor (numerator denominator : Nat) : Int :=
  let guess : Int := Int.ofNat (Nat.log2 numerator) - Int.ofNat (Nat.log2 denominator) - 52
  -- The guess is right or one too high.
  let fits := if guess ≥ 0 then denominator * 2 ^ guess.toNat * 2 ^ 52 ≤ numerator
    else denominator * 2 ^ 52 ≤ numerator * 2 ^ (-guess).toNat
  let exact := if fits then guess else guess - 1
  if exact < -1074 then -1074 else exact

/-- The number nearest to a quotient of whole numbers, a tie going to the even mantissa. -/
def ofRatio (negative : Bool) (numerator denominator : Nat) : Binary64 :=
  if numerator == 0 || denominator == 0 then ofParts negative 0
  else
    let scale := scaleFor numerator denominator
    ofParts negative (packMagnitude (scaled numerator denominator scale) scale)

/-- The nearest number to an integer; infinite past the largest number. -/
def ofInt (n : Int) : Binary64 := ofRatio (n < 0) n.natAbs 1

/-- The number nearest to `digits * 10 ^ exponent`. -/
def ofDecimal (negative : Bool) (digits : Nat) (exponent : Int) : Binary64 :=
  if digits == 0 then ofParts negative 0
  else
    -- Past these bounds the nearest number is infinite or zero whatever the digits are. The powers of two are taken
    -- for smaller powers of ten in the one, and for larger ones in the other.
    if exponent + Int.ofNat (Nat.log2 digits) * 3 / 10 > 400 then infinity negative
    else if exponent + Int.ofNat (Nat.log2 digits) / 3 < -450 then ofParts negative 0
    else if exponent ≥ 0 then ofRatio negative (digits * 10 ^ exponent.toNat) 1
    else ofRatio negative digits (10 ^ (-exponent).toNat)

/-- The magnitude of a finite number as a quotient of whole numbers. -/
def ratio (x : Binary64) : Nat × Nat :=
  if x.scale ≥ 0 then (x.mantissa * 2 ^ x.scale.toNat, 1) else (x.mantissa, 2 ^ (-x.scale).toNat)

/-- The numerator of a finite number's value, with its sign. -/
def signedNumerator (x : Binary64) : Int :=
  if x.isNegative then -Int.ofNat x.ratio.1 else Int.ofNat x.ratio.1

/-- The integer part of a finite number. -/
def truncate (x : Binary64) : Int :=
  let (numerator, denominator) := x.ratio
  let magnitude := Int.ofNat (numerator / denominator)
  if x.isNegative then -magnitude else magnitude

/-- Whether a finite number is an integer. -/
def isIntegral (x : Binary64) : Bool := x.isFinite && x.ratio.1 % x.ratio.2 == 0

/-- The largest integer that is not above a finite number. -/
def floor (x : Binary64) : Int :=
  Int.fdiv x.signedNumerator (Int.ofNat x.ratio.2)

/-- The smallest integer that is not below a finite number. -/
def ceil (x : Binary64) : Int :=
  -(Int.fdiv (-x.signedNumerator) (Int.ofNat x.ratio.2))

/-- The nearest integer to a finite number, a half going to the even neighbour. -/
def roundInt (x : Binary64) : Int :=
  let (numerator, denominator) := x.ratio
  let magnitude := Int.ofNat (roundDiv numerator denominator)
  if x.isNegative then -magnitude else magnitude

/-- Equality of numbers: the two zeros are equal, and no NaN equals anything. -/
def eq (x y : Binary64) : Bool := !x.isNaN && !y.isNaN && (x.bits == y.bits || (x.isZero && y.isZero))

/-- A key that orders the numbers other than NaN. -/
def orderKey (x : Binary64) : Int :=
  let magnitude := Int.ofNat (x.bits.toNat % 2 ^ 63)
  if x.isNegative then -magnitude else magnitude

/-- The order of two numbers, none where one is a NaN. -/
def compare? (x y : Binary64) : Option Ordering :=
  if x.isNaN || y.isNaN then none else some (compare x.orderKey y.orderKey)

/-- The exact order of a number and an integer. -/
def compareInt? (x : Binary64) (n : Int) : Option Ordering :=
  if x.isNaN then none
  else if x.isInfinite then some (if x.isNegative then .lt else .gt)
  else some (compare x.signedNumerator (n * Int.ofNat x.ratio.2))

def neg (x : Binary64) : Binary64 :=
  ⟨UInt64.ofNat (if x.isNegative then x.bits.toNat - 2 ^ 63 else x.bits.toNat + 2 ^ 63)⟩

def abs (x : Binary64) : Binary64 := if x.isNegative then x.neg else x

def add (x y : Binary64) : Binary64 := ofFloat (x.toFloat + y.toFloat)
def sub (x y : Binary64) : Binary64 := ofFloat (x.toFloat - y.toFloat)
def mul (x y : Binary64) : Binary64 := ofFloat (x.toFloat * y.toFloat)
def div (x y : Binary64) : Binary64 := ofFloat (x.toFloat / y.toFloat)

/-- What a division rounded toward zero leaves, exactly; it has the sign of the dividend. -/
def truncMod (x y : Binary64) : Binary64 :=
  if x.isNaN || y.isNaN || x.isInfinite || y.isZero then nan
  else if y.isInfinite then x
  else
    let scale := min x.scale y.scale
    let a := x.mantissa * 2 ^ (x.scale - scale).toNat
    let b := y.mantissa * 2 ^ (y.scale - scale).toNat
    let rest := a % b
    if scale ≥ 0 then ofRatio x.isNegative (rest * 2 ^ scale.toNat) 1
    else ofRatio x.isNegative rest (2 ^ (-scale).toNat)

/-- What a division rounded down leaves; it has the sign of the divisor, which is not zero. -/
def floorMod (x y : Binary64) : Binary64 :=
  let rest := truncMod x y
  if rest.isZero then ofParts y.isNegative 0
  else if !rest.isNaN && rest.isNegative != y.isNegative then rest.add y
  else rest

/-- A quotient rounded down, the divisor not zero: from the exact remainder, then to the nearest integer. -/
def floorDiv (x y : Binary64) : Binary64 :=
  let rest := truncMod x y
  let quotient := (x.sub rest).div y
  let quotient := if !rest.isZero && !rest.isNaN && rest.isNegative != y.isNegative
    then quotient.sub (ofInt 1) else quotient
  if quotient.isZero then ofParts (x.div y).isNegative 0
  else
    let down := ofFloat quotient.toFloat.floor
    if (compare? (ofRatio false 1 2) (quotient.sub down)) == some .lt then down.add (ofInt 1) else down

end Binary64

end PhaseScript
