import PhaseScript.Number.Binary64
import PhaseScript.Text.Category
/-
Reading numbers from text: blanks around them are left out, single underscores may stand between digits, and the
digits may be those of any script.
-/
set_option autoImplicit false

namespace PhaseScript

/-- Why a text is no integer. -/
inductive IntReadFault where
  | invalid
  | tooManyDigits (count : Nat)
  deriving DecidableEq, Repr

namespace Text

/-- The text with decimal digits of any script made into those of ASCII. -/
def withPlainDigits (t : Text) : Text :=
  t.map fun p => match p.decimal? with
    | some n => Point.ofNat (48 + n)
    | none => p

/-- The values of digits in a base, single underscores between them left out. -/
def digitValues? (base : Nat) (t : Text) : Option (List Nat) :=
  match t with
  | [] => none
  | p :: rest =>
    if p.is '_' then none
    else go p rest
where
  go (p : Point) : Text → Option (List Nat)
    | [] => (digit p).map ([·])
    | q :: rest => do
      if p.is '_' then
        if q.is '_' then none else go q rest
      else
        let n ← digit p
        return n :: (← go q rest)
  digit (p : Point) : Option Nat := p.asciiDigit?.bind fun n => if n < base then some n else none

/-- The letters that tell a base. -/
def baseOfLetter? (p : Point) : Option Nat :=
  if p.is 'x' || p.is 'X' then some 16
  else if p.is 'o' || p.is 'O' then some 8
  else if p.is 'b' || p.is 'B' then some 2
  else none

/-- A sign at the front of a text: whether it is a minus, and the rest. -/
def takeSign : Text → Bool × Text
  | p :: rest => if p.is '-' then (true, rest) else if p.is '+' then (false, rest) else (false, p :: rest)
  | [] => (false, [])

/-- The base of the digits and the digits: what tells the base is left out where it agrees with the base asked for.
Zero asks for whatever the text tells. -/
def splitBase (base : Nat) (t : Text) : Nat × Text :=
  match t with
  | z :: letter :: rest =>
    if z.is '0' then
      match baseOfLetter? letter with
      | some found =>
        if base == 0 || base == found then
          (found, match rest with
            | u :: more => if u.is '_' then more else rest
            | [] => [])
        else (base, t)
      | none => (if base == 0 then 10 else base, t)
    else (if base == 0 then 10 else base, t)
  | _ => (if base == 0 then 10 else base, t)

/-- The integer that a text is in a base. -/
def readInt (base : Nat) (t : Text) : Except IntReadFault Int :=
  let (negative, body) := takeSign (withPlainDigits (strip t))
  let (found, digits) := splitBase base body
  match digitValues? found digits with
  | none => .error .invalid
  | some values =>
    if [2, 4, 8, 16, 32].contains found == false && 4300 < values.length then
      .error (.tooManyDigits values.length)
    else
      let n := values.foldl (fun n d => n * found + d) 0
      -- Without a base a decimal number has no zeros in front.
      if base == 0 && found == 10 && n != 0 && values.headD 1 == 0 then .error .invalid
      else .ok (if negative then -Int.ofNat n else Int.ofNat n)

/-- Decimal digits at the front of a text as a number with their count, and the rest. -/
def takeDecimals (t : Text) : Option (Nat × Nat × Text) :=
  let run := t.takeWhile fun p => p.isAsciiDigit || p.is '_'
  match run with
  | [] => some (0, 0, t)
  | _ => (digitValues? 10 run).map fun values =>
    (values.foldl (fun n d => n * 10 + d) 0, values.length, t.drop run.length)

/-- The floating-point number that a text is. -/
def readFloat? (t : Text) : Option Binary64 := do
  let (negative, body) := takeSign (withPlainDigits (strip t))
  let word := asciiLower body
  if word.is "inf" || word.is "infinity" then return Binary64.infinity negative
  if word.is "nan" then return if negative then Binary64.nan.neg else Binary64.nan
  let (whole, wholeCount, rest) ← takeDecimals body
  let (fraction, fractionCount, rest) ← match rest with
    | p :: after =>
      if p.is '.' then
        match after with
        | q :: _ => if q.is '_' then none else takeDecimals after
        | [] => some (0, 0, [])
      else some (0, 0, rest)
    | [] => some (0, 0, [])
  if wholeCount + fractionCount == 0 then none
  let exponent ← match rest with
    | [] => some (0 : Int)
    | p :: after =>
      if p.is 'e' || p.is 'E' then do
        let (low, digits) := takeSign after
        let (n, count, rest) ← takeDecimals digits
        if count == 0 || !rest.isEmpty then none
        pure (if low then -Int.ofNat n else Int.ofNat n)
      else none
  return Binary64.ofDecimal negative (whole * 10 ^ fractionCount + fraction) (exponent - fractionCount)

/-- Hexadecimal digits at the front of a text as a number with their count, and the rest. -/
def takeHexDigits (t : Text) : Nat × Nat × Text :=
  let run := t.takeWhile fun p => p.asciiDigit?.any (· < 16)
  (run.foldl (fun n p => n * 16 + (p.asciiDigit?.getD 0)) 0, run.length, t.drop run.length)

/-- The floating-point number that hexadecimal digits, a point among them and a power of two spell. One too large
reads as infinite. -/
def readHexFloat? (t : Text) : Option Binary64 := do
  let isBlank (p : Point) : Bool := p.is ' ' || (9 ≤ p.val && p.val ≤ 13)
  let (negative, body) := takeSign (stripBy isBlank t)
  let word := asciiLower body
  if word.is "inf" || word.is "infinity" then return Binary64.infinity negative
  if word.is "nan" then return if negative then Binary64.nan.neg else Binary64.nan
  let body := if startsWith word "0x" then body.drop 2 else body
  let (whole, wholeCount, rest) := takeHexDigits body
  let (fraction, fractionCount, rest) := match rest with
    | p :: after => if p.is '.' then takeHexDigits after else (0, 0, rest)
    | [] => (0, 0, [])
  if wholeCount + fractionCount == 0 then none
  let exponent : Int ← match rest with
    | [] => some 0
    | p :: after =>
      if p.is 'p' || p.is 'P' then
        let (low, digits) := takeSign after
        if digits.isEmpty || !digits.all Point.isAsciiDigit then none
        else
          let n := Int.ofNat (digits.foldl (fun n d => n * 10 + (d.val - 48)) 0)
          some (if low then -n else n)
      else none
  let digits := whole * 16 ^ fractionCount + fraction
  let exponent := exponent - 4 * Int.ofNat fractionCount
  -- Beyond these bounds the outcome is settled, whatever the digits are.
  let far := Int.ofNat (4 * (wholeCount + fractionCount) + 2200)
  if digits == 0 then return Binary64.ofParts negative 0
  if exponent > far then return Binary64.infinity negative
  if exponent < -far then return Binary64.ofParts negative 0
  return if exponent ≥ 0 then Binary64.ofRatio negative (digits * 2 ^ exponent.toNat) 1
    else Binary64.ofRatio negative digits (2 ^ exponent.natAbs)

end Text

end PhaseScript
