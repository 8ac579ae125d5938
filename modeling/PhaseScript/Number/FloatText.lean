import PhaseScript.Number.Binary64
import PhaseScript.Text.Basic
/-
The decimal texts of a floating-point number: the shortest one that reads back, of those the nearest, and the ones
with a chosen number of digits.
-/
set_option autoImplicit false

namespace PhaseScript

/-- A decimal magnitude `0.d₁d₂… * 10 ^ point`: its digits as one number, their count and the place of the
decimal point relative to the first digit. -/
structure ShortDecimal where
  digits : Nat
  count : Nat
  point : Int
  deriving DecidableEq, Repr

namespace Binary64

/-- The place of the decimal point of a positive quotient: the least `k` with the value below `10 ^ k`. -/
def decimalPoint (numerator denominator : Nat) : Int :=
  let guess : Int := (Int.ofNat (Nat.log2 numerator) - Int.ofNat (Nat.log2 denominator)) * 30103 / 100000
  let below := fun (k : Int) =>
    if k ≥ 0 then numerator < denominator * 10 ^ k.toNat else numerator * 10 ^ (-k).toNat < denominator
  -- The guess is within one of the place.
  if below (guess - 1) then guess - 1
  else if below guess then guess
  else if below (guess + 1) then guess + 1
  else guess + 2

/-- A quotient times a power of ten, rounded down, and what is left of it. -/
def gridBelow (numerator denominator : Nat) (power : Int) : Nat :=
  if power ≥ 0 then numerator * 10 ^ power.toNat / denominator
  else numerator / (denominator * 10 ^ (-power).toNat)

/-- Whether the upper neighbour of a quotient on a decimal grid is nearer than the lower one, a tie going to the
even of the two. -/
def upperNearer (numerator denominator : Nat) (power : Int) : Bool :=
  let (n, d) := if power ≥ 0 then (numerator * 10 ^ power.toNat, denominator)
    else (numerator, denominator * 10 ^ (-power).toNat)
  roundDiv n d != n / d

/-- The shortest digits of a positive finite number, trying `count` digits and then more. -/
def shortestFrom (x : Binary64) (point : Int) : Nat → Nat → ShortDecimal
  | 0, count =>
    let (n, d) := x.ratio
    ⟨gridBelow n d (Int.ofNat count - point), count, point⟩
  | fuel + 1, count =>
    let (n, d) := x.ratio
    let power := Int.ofNat count - point
    let low := gridBelow n d power
    let fits := fun (digits : Nat) => (ofDecimal false digits (-power)).bits == x.bits
    let upper := upperNearer n d power
    let choice := if fits low && !(upper && fits (low + 1)) then some low
      else if fits (low + 1) then some (low + 1) else none
    match choice with
    | some digits =>
      -- Rounding up may carry into a new first digit.
      if digits == 10 ^ count then ⟨1, 1, point + 1⟩ else ⟨digits, count, point⟩
    | none => shortestFrom x point fuel (count + 1)

/-- The shortest digits of a positive finite number. -/
def shortest (x : Binary64) : ShortDecimal :=
  let (n, d) := x.ratio
  shortestFrom x.abs (decimalPoint n d) 17 1

end Binary64

/-- Zeros in front of the digits of a number, up to a count of digits. -/
def Text.digits (count n : Nat) : Text := Text.padLeft count '0' (Text.ofNat n)

namespace Binary64

/-- An exponent: its sign and at least two digits. -/
def exponentText (exponent : Int) : Text :=
  (if exponent < 0 then ("e-" : Text) else "e+") ++ Text.digits 2 exponent.natAbs

/-- A sign in front of a magnitude. -/
def signed (x : Binary64) (magnitude : Text) : Text :=
  if x.isNegative then Point.ofChar '-' :: magnitude else magnitude

/-- The text of a number: the fewest digits that read back, positional from `10 ^ -4` up to `10 ^ 16` and with an
exponent outside; a positional text always has a point. -/
def text (x : Binary64) : Text :=
  if x.isNaN then "nan"
  else if x.isInfinite then x.signed "inf"
  else if x.isZero then x.signed "0.0"
  else
    let decimal := x.abs.shortest
    let digits := Text.digits decimal.count decimal.digits
    let count : Int := Int.ofNat decimal.count
    x.signed (
      if decimal.point ≤ -4 || 16 < decimal.point then
        digits.take 1 ++ (if decimal.count == 1 then [] else Point.ofChar '.' :: digits.drop 1)
          ++ exponentText (decimal.point - 1)
      else if decimal.point ≤ 0 then
        "0." ++ List.replicate (-decimal.point).toNat (Point.ofChar '0') ++ digits
      else if decimal.point < count then
        digits.take decimal.point.toNat ++ Point.ofChar '.' :: digits.drop decimal.point.toNat
      else
        digits ++ List.replicate (decimal.point - count).toNat (Point.ofChar '0') ++ ".0")

/-- The magnitude with a chosen number of places after the point. -/
def fixedMagnitude (x : Binary64) (places : Nat) (keepPoint : Bool) : Text :=
  let (n, d) := x.ratio
  let whole := roundDiv (n * 10 ^ places) d
  let digits := Text.digits (places + 1) whole
  let cut := digits.length - places
  digits.take cut ++ (if places == 0 && !keepPoint then [] else Point.ofChar '.' :: digits.drop cut)

/-- The digits of a finite number rounded to a count of digits, and the exponent of the first one. -/
def roundedDigits (x : Binary64) (count : Nat) : Nat × Int :=
  if x.isZero then (0, 0)
  else
    let (n, d) := x.ratio
    let point := decimalPoint n d
    let power := Int.ofNat count - point
    let digits := if power ≥ 0 then roundDiv (n * 10 ^ power.toNat) d
      else roundDiv n (d * 10 ^ (-power).toNat)
    if digits == 10 ^ count then (10 ^ (count - 1), point) else (digits, point - 1)

/-- The magnitude with one digit before the point, a chosen number after it and an exponent. -/
def exponentMagnitude (x : Binary64) (places : Nat) (keepPoint : Bool) : Text :=
  let (digits, exponent) := x.roundedDigits (places + 1)
  let shown := Text.digits (places + 1) digits
  shown.take 1 ++ (if places == 0 && !keepPoint then [] else Point.ofChar '.' :: shown.drop 1)
    ++ exponentText exponent

/-- Without the zeros at the end of a fraction, and without the point if nothing is left behind it. -/
def trimFraction (t : Text) : Text :=
  if t.any (·.is '.') then Text.dropEndWhile (·.is '.') (Text.dropEndWhile (·.is '0') t) else t

/-- The magnitude with a chosen number of significant digits: positional when the exponent lies between -4 and
that number, trailing zeros dropped unless they are kept. -/
def generalMagnitude (x : Binary64) (significant : Nat) (keepZeros : Bool) : Text :=
  let count := if significant == 0 then 1 else significant
  let (digits, exponent) := x.roundedDigits count
  let shown := Text.digits count digits
  if exponent < -4 || Int.ofNat count ≤ exponent then
    let body := shown.take 1 ++ Point.ofChar '.' :: shown.drop 1
    (if keepZeros then body else trimFraction body) ++ exponentText exponent
  else
    let body : Text :=
      if exponent < 0 then "0." ++ List.replicate (-exponent - 1).toNat (Point.ofChar '0') ++ shown
      else shown.take (exponent.toNat + 1) ++ Point.ofChar '.' :: shown.drop (exponent.toNat + 1)
    if keepZeros then body else trimFraction body

end Binary64

end PhaseScript
