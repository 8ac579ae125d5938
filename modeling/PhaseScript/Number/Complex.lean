import PhaseScript.Number.Binary64
/-
Arithmetic of complex numbers, part by part. The length of a row of floating-point numbers comes from square roots in
whole numbers, and is rounded once.
-/
set_option autoImplicit false

namespace PhaseScript

/-- The greatest whole number whose square is not above a number, from the root of a quarter of it. -/
def floorRoot (n : Nat) : Nat :=
  if n = 0 then 0
  else
    let root := 2 * floorRoot (n / 4)
    if (root + 1) * (root + 1) ≤ n then root + 1 else root
termination_by n
decreasing_by omega

/-- The root lies below a number, and the next whole number above it. -/
theorem floorRoot_bounds (n : Nat) :
    floorRoot n * floorRoot n ≤ n ∧ n < (floorRoot n + 1) * (floorRoot n + 1) := by
  fun_induction floorRoot n with
  | case1 => decide
  | case2 n nonzero root next ih =>
    refine ⟨next, ?_⟩
    have quarter := ih.2
    have twice : (root + 1 + 1) * (root + 1 + 1)
        = 4 * ((floorRoot (n / 4) + 1) * (floorRoot (n / 4) + 1)) := by
      show (2 * floorRoot (n / 4) + 1 + 1) * (2 * floorRoot (n / 4) + 1 + 1) = _
      grind
    omega
  | case3 n nonzero root next ih =>
    have quarter := ih.1
    have twice : root * root = 4 * (floorRoot (n / 4) * floorRoot (n / 4)) := by
      show 2 * floorRoot (n / 4) * (2 * floorRoot (n / 4)) = _
      grind
    exact ⟨by omega, by omega⟩

namespace Binary64

/-- A whole number times a power of two, to the nearest number. -/
def ofScaled (negative : Bool) (n : Nat) (scale : Int) : Binary64 :=
  if scale ≥ 0 then ofRatio negative (n * 2 ^ scale.toNat) 1 else ofRatio negative n (2 ^ (-scale).toNat)

/-- The square root of a whole number times a power of four, to the nearest number. The root is taken with far
more places than the result has; one more bit tells whether anything was left, so the rounding sees no tie where
there is none. -/
def rootOfScaled (n : Nat) (scale : Int) : Binary64 :=
  let places : Nat := 70
  let wide := n * 4 ^ places
  let root := floorRoot wide
  let rest := if root * root == wide then 0 else 1
  ofScaled false (2 * root + rest) (scale - Int.ofNat places - 1)

/-- The length of a row of numbers as the sides of a box: infinite if one of them is, even beside one that is no
number, and else the root of the sum of their squares, rounded once. -/
def lengthOfSides (xs : List Binary64) : Binary64 :=
  if xs.any isInfinite then infinity false
  else if xs.any isNaN then nan
  else
    let scale : Int := (xs.map Binary64.scale).foldl min 971
    let sum := (xs.map fun x => (x.mantissa * 2 ^ (x.scale - scale).toNat) ^ 2).foldl (· + ·) 0
    rootOfScaled sum scale

end Binary64

/-- A complex number. -/
structure Complex where
  re : Binary64
  im : Binary64
  deriving DecidableEq, Repr, Inhabited

namespace Complex

def one : Complex := ⟨Binary64.ofInt 1, Binary64.zero⟩

def ofReal (x : Binary64) : Complex := ⟨x, Binary64.zero⟩

def isZero (z : Complex) : Bool := z.re.isZero && z.im.isZero

def neg (z : Complex) : Complex := ⟨z.re.neg, z.im.neg⟩

def add (z w : Complex) : Complex := ⟨z.re.add w.re, z.im.add w.im⟩

def sub (z w : Complex) : Complex := ⟨z.re.sub w.re, z.im.sub w.im⟩

def mul (z w : Complex) : Complex :=
  ⟨(z.re.mul w.re).sub (z.im.mul w.im), (z.re.mul w.im).add (z.im.mul w.re)⟩

/-- The distance from zero. -/
def magnitude (z : Complex) : Binary64 := Binary64.lengthOfSides [z.re, z.im]

def isFinite (z : Complex) : Bool := z.re.isFinite && z.im.isFinite

/-- Whether a part has no bound. -/
def isUnbounded (z : Complex) : Bool := z.re.isInfinite || z.im.isInfinite

/-- Whether the first magnitude is not below the second. -/
def atLeast (x y : Binary64) : Bool := (Binary64.compare? x y).any (· != .lt)

/-- The quotient by a number other than zero, scaled by the larger of its two parts. -/
def div (z w : Complex) : Complex :=
  if atLeast w.re.abs w.im.abs then
    let ratio := w.im.div w.re
    let scale := w.re.add (w.im.mul ratio)
    ⟨(z.re.add (z.im.mul ratio)).div scale, (z.im.sub (z.re.mul ratio)).div scale⟩
  else
    let ratio := w.re.div w.im
    let scale := (w.re.mul ratio).add w.im
    ⟨((z.re.mul ratio).add z.im).div scale, ((z.im.mul ratio).sub z.re).div scale⟩

/-- A power with a whole exponent, by repeated squaring over the bits of the exponent, the lowest first. -/
def powNat (z : Complex) : Nat → Nat → Complex → Complex
  | 0, _, found => found
  | fuel + 1, n, found =>
    if n == 0 then found
    else powNat (z.mul z) fuel (n / 2) (if n % 2 == 1 then found.mul z else found)

/-- A power by magnitude and angle; none if the angle has no bound. -/
def powPolar (z w : Complex) : Option Complex :=
  let size := z.magnitude.toFloat
  let angle := Float.atan2 z.im.toFloat z.re.toFloat
  let length := Float.pow size w.re.toFloat
  let phase := angle * w.re.toFloat
  let (length, phase) := if w.im.isZero then (length, phase)
    else (length / Float.exp (angle * w.im.toFloat), phase + w.im.toFloat * Float.log size)
  if phase.isInf then none
  else some ⟨.ofFloat (length * Float.cos phase), .ofFloat (length * Float.sin phase)⟩

/-- Why there is no power. -/
inductive PowerFault where
  | /-- A division by zero, or an angle without bound. -/ undefined
  | /-- A part without bound. -/ tooLarge
  deriving DecidableEq, Repr

/-- A power: a small whole exponent by multiplication, any other by magnitude and angle. -/
def pow (z w : Complex) : Except PowerFault Complex := do
  let exponent := w.re
  let found ←
    if w.im.isZero && exponent.isIntegral && exponent.truncate.natAbs ≤ 100 then
      let n := exponent.truncate
      let product := powNat z 8 n.natAbs one
      if n ≥ 0 then pure product
      else if product.isZero then throw .undefined
      else pure (div one product)
    else if w.isZero then pure one
    else if z.isZero then
      if !w.im.isZero || (w.re.isNegative && !w.re.isNaN) then throw .undefined
      else pure ⟨Binary64.zero, Binary64.zero⟩
    else match powPolar z w with
      | some r => pure r
      | none => throw .undefined
  if found.isUnbounded then throw .tooLarge else return found

end Complex

end PhaseScript
