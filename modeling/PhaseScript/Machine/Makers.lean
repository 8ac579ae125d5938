import PhaseScript.Number.Reading
import PhaseScript.Machine.OctetMethods
import PhaseScript.Machine.CollectionMethods
import PhaseScript.Machine.NumberMethods
import PhaseScript.Machine.CalendarMethods
/-
The ways to make values that types have besides being called.
-/
set_option autoImplicit false

namespace PhaseScript.Machine

namespace Run

/-- The table that replaces the points of one text by those of another and drops those of a third. -/
def pairedTable (sources targets dropped : Text) : Run Value :=
  let point (p : Point) : Value := .int (Int.ofNat p.val)
  let entries := (sources.zip targets).foldl (fun found (p, q) => putEntry found (point p) (point q)) #[]
  alloc (.dict (dropped.foldl (fun found p => putEntry found (point p) .none) entries) false)

/-- The table that replaces points as a dict says. -/
def keyedTable (v : Value) : Run Value := do
  match ← entries? v with
  | none => typeError "if you give only one argument to maketrans it must be a dict"
  | some entries =>
    newDict (← entries.toList.mapM fun (k, w) => match k with
      | .text [p] => return (Value.int (Int.ofNat p.val), w)
      | .text _ => valueError "string keys in translate table must be of length 1"
      | .int n => return (Value.int n, w)
      | _ => typeError "keys in translate table must be strings or integers")

/-- A table of replacements of points. -/
def replacementTable (args : List (Option Value)) : Run Value := do
  match given? args 1 with
  | none => keyedTable (argument args 0)
  | some second =>
    let targets ← mustBeTextArgument "maketrans() argument 2" second
    let dropped ← match given? args 2 with
      | none => pure []
      | some v => mustBeTextArgument "maketrans() argument 3" v
    match argument args 0 with
    | .text sources =>
      if sources.length != targets.length then
        valueError "the first two maketrans arguments must have equal length"
      pairedTable sources targets dropped
    | _ => typeError "first maketrans argument must be a string if there is a second argument"

/-- A table of replacements of octets: for each octet the one in its place. -/
def octetTable (args : List (Option Value)) : Run Value := do
  let sources ← mustBeBytes (argument args 0)
  let targets ← mustBeBytes (argument args 1)
  if sources.length != targets.length then valueError "maketrans arguments must have same length"
  let pairs := (sources.zip targets).reverse
  let target (o : UInt8) : UInt8 := ((pairs.find? fun pair => pair.1 == o).map (·.2)).getD o
  return .bytes ((List.range 256).map fun n => target (UInt8.ofNat n))

/-- The octets that pairs of hexadecimal digits spell. -/
def octetsOfHex (v : Value) : Run Value := do
  let t ← mustBeTextArgument "fromhex() argument" v
  let refuse (place : Nat) : Run Value :=
    valueError ("non-hexadecimal number found in fromhex() arg at position " ++ Text.ofNat place)
  let plain := t.takeWhile fun p => p.val < 128
  if plain.length < t.length then refuse plain.length
  else match Bytes.ofHex t.length t with
    | .ok b => return .bytes b
    | .error place => refuse place

/-- The integer that octets spell. -/
def integerOfOctets (m : Interp) (args : List (Option Value)) : Run Int := do
  let big ← isBigEndian "from_bytes" (given? args 1)
  let octets ← match argument args 0 with
    | .bytes b => pure b
    | .text _ => typeError "cannot convert 'str' object to bytes"
    | v =>
      if v.numeral?.isSome then typeErrorOf "cannot convert '" v "' object to bytes"
      (← itemsOf m v).mapM fun item => do
        let n ← index item
        if n < 0 || n > 255 then valueError "bytes must be in range(0, 256)"
        return UInt8.ofNat n.toNat
  let isSigned ← truth ((given? args 2).getD (.bool false))
  let n : Int := octetsValue (if big then octets else octets.reverse)
  let limit : Int := 256 ^ octets.length
  return if isSigned && limit ≤ 2 * n then n - limit else n

def fromBytesParameters : NamedParameters := ⟨["bytes", "byteorder", "signed"], 1, 0, 2⟩

/-- The number that hexadecimal digits with a power of two spell. -/
def floatOfHex (v : Value) : Run Value := do
  match v with
  | .text t =>
    match Text.readHexFloat? t with
    | some x =>
      if x.isInfinite && t.any fun p => p.isAsciiDigit then
        raise .overflowError "hexadecimal value too large to represent as a float"
      return .float x
    | none => valueError "invalid hexadecimal floating-point string"
  | _ => typeError "bad argument type for built-in operation"

end Run

open Run

/-- The ways to make values, by the type that has them. -/
def makers : List (TypeName × Method Unit) := calendarMakers ++ [
  (.text, ⟨"maketrans", .span 1 3, fun _ _ args => replacementTable args⟩),
  (.bytes, ⟨"maketrans", .span 2 2, fun _ _ args => octetTable args⟩),
  (.bytes, ⟨"fromhex", .single, fun _ _ args => octetsOfHex (argument args 0)⟩),
  (.int, ⟨"from_bytes", .named fromBytesParameters, fun m _ args => do return .int (← integerOfOctets m args)⟩),
  (.bool, ⟨"from_bytes", .named fromBytesParameters, fun m _ args => do
    return .bool ((← integerOfOctets m args) != 0)⟩),
  (.float, ⟨"fromhex", .single, fun _ _ args => floatOfHex (argument args 0)⟩),
  (.dict, ⟨"fromkeys", .span 1 2, fun m _ args => do
    let keys ← itemsOf m (argument args 0)
    keys.forM checkHashable
    alloc (.dict (keys.foldl (fun found k => putEntry found k (argument args 1)) #[]) false)⟩)]

/-- The way to make values that a type has under a name. -/
def maker? (t : TypeName) (name : Text) : Option (Method Unit) :=
  (makers.find? fun (owner, method) => owner == t && name.is method.name).map (·.2)

/-- Whether a type has a way to make values that goes by a name. -/
def TypeName.hasMaker (t : TypeName) (name : Text) : Bool := (maker? t name).isSome

end PhaseScript.Machine
