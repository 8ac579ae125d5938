import PhaseScript.Machine.Intake
import PhaseScript.Machine.Arithmetic
/-
The methods and parts of numbers.
-/
set_option autoImplicit false

namespace PhaseScript.Machine

open Run

/-- The lowest octets of an integer that is not negative, the lowest first. -/
def lowOctets : Nat → Nat → Bytes
  | 0, _ => []
  | count + 1, n => UInt8.ofNat (n % 256) :: lowOctets count (n / 256)

/-- The number of octets, the highest first. -/
def octetsValue (b : Bytes) : Nat := b.foldl (fun n o => n * 256 + o.toNat) 0

/-- Whether a word names the order with the high octet first. -/
def Run.isBigEndian (caller : String) (v : Option Value) : Run Bool :=
  match v with
  | none => return true
  | some (.text t) =>
    if t.is "big" then return true
    else if t.is "little" then return false
    else valueError "byteorder must be either 'little' or 'big'"
  | some v => refuseArgument (Text.ofString caller ++ "() argument 'byteorder' must be str") v

/-- The octets of an integer. -/
def Run.octetsOf (n : Int) (args : List (Option Value)) : Run Value := do
  let length ← match given? args 0 with
    | none => pure 1
    | some v => sizeIndex v
  let big ← isBigEndian "to_bytes" (given? args 1)
  let isSigned ← truth ((given? args 2).getD (.bool false))
  if length < 0 then valueError "length argument must be non-negative"
  if length > 2 ^ 63 - 34 then raise .overflowError "byte string is too large"
  let count ← roomFor length
  if n < 0 && !isSigned then raise .overflowError "can't convert negative int to unsigned"
  let limit : Int := 256 ^ count
  let fits := if isSigned then -limit ≤ 2 * n && 2 * n < limit else n < limit
  if !fits then raise .overflowError "int too big to convert"
  let octets := lowOctets count (n.emod limit).toNat
  return .bytes (if big then octets.reverse else octets)

/-- The methods of integers. -/
def intMethods : List (Method Int) := [
  ⟨"bit_length", .nothing true, fun _ n _ => return .int (Int.ofNat (Bits.length n))⟩,
  ⟨"bit_count", .nothing true, fun _ n _ => return .int (Int.ofNat (Bits.ones n))⟩,
  ⟨"conjugate", .nothing false, fun _ n _ => return .int n⟩,
  ⟨"as_integer_ratio", .nothing true, fun _ n _ => newTuple [.int n, .int 1]⟩,
  ⟨"to_bytes", .named ⟨["length", "byteorder", "signed"], 0, 0, 2⟩, fun _ n args => octetsOf n args⟩]

/-- A number as hexadecimal digits of its fraction and a power of two. -/
def hexText (x : Binary64) : Text :=
  if !x.isFinite then x.text
  else
    let sign : Text := if x.isNegative then "-" else []
    if x.isZero then sign ++ "0x0.0p+0"
    else
      let lead : Text := if x.exponentField == 0 then "0" else "1"
      let exponent : Int := if x.exponentField == 0 then -1022 else Int.ofNat x.exponentField - 1023
      sign ++ "0x" ++ lead ++ "." ++ Text.hex 13 x.fraction ++ "p" ++ (if exponent < 0 then ("-" : Text) else "+")
        ++ Text.ofNat exponent.natAbs

/-- The methods of floating-point numbers. -/
def floatMethods : List (Method Binary64) := [
  ⟨"is_integer", .nothing true, fun _ x _ => return .bool x.isIntegral⟩,
  ⟨"conjugate", .nothing true, fun _ x _ => return .float x⟩,
  ⟨"hex", .nothing true, fun _ x _ => return .text (hexText x)⟩,
  ⟨"as_integer_ratio", .nothing true, fun _ x _ => do
    let (n, d) ← exactRatio x
    newTuple [.int n, .int d]⟩]

/-- The methods of complex numbers. -/
def complexMethods : List (Method Complex) := [
  ⟨"conjugate", .nothing true, fun _ z _ => return .complex z.re z.im.neg⟩]

/-- The parts of an integer. -/
def intPart? (n : Int) (name : Text) : Option Value :=
  if name.is "real" || name.is "numerator" then some (.int n)
  else if name.is "imag" then some (.int 0)
  else if name.is "denominator" then some (.int 1)
  else none

/-- The parts of a floating-point number. -/
def floatPart? (x : Binary64) (name : Text) : Option Value :=
  if name.is "real" then some (.float x)
  else if name.is "imag" then some (.float Binary64.zero)
  else none

/-- The parts of a complex number. -/
def complexPart? (z : Complex) (name : Text) : Option Value :=
  if name.is "real" then some (.float z.re) else if name.is "imag" then some (.float z.im) else none

end PhaseScript.Machine
