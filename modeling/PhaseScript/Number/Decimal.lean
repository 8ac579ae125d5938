import PhaseScript.Number.Binary64
import PhaseScript.Text.Category
/-
Decimal numbers: a sign, a whole number and a power of ten, or one of the values that are not finite. A number
keeps the zeros it was written with.
-/
set_option autoImplicit false

namespace PhaseScript

/-- What a decimal number is besides its sign. -/
inductive Decimal.Kind where
  | finite (digits : Nat) (exponent : Int)
  | infinite
  | nan (signaling : Bool) (payload : Text)
  deriving DecidableEq, Repr, Inhabited

/-- A decimal number. -/
structure Decimal where
  negative : Bool
  kind : Decimal.Kind
  deriving DecidableEq, Repr, Inhabited

namespace Decimal

def isFinite (d : Decimal) : Bool :=
  match d.kind with
  | .finite _ _ => true
  | _ => false

/-- The text of a number: positional while the exponent is not positive and the first digit is not further than
six places behind the point, else with one digit before the point and an exponent. -/
def text (d : Decimal) : Text :=
  (if d.negative then ("-" : Text) else "") ++
  match d.kind with
  | .infinite => "Infinity"
  | .nan signaling payload => (if signaling then ("sNaN" : Text) else "NaN") ++ payload
  | .finite digits exponent =>
    let shown := Text.ofNat digits
    let left : Int := exponent + Int.ofNat shown.length
    let place : Int := if exponent ≤ 0 && -6 < left then left else 1
    let body : Text :=
      if place ≤ 0 then "0." ++ List.replicate (-place).toNat (Point.ofChar '0') ++ shown
      else if Int.ofNat shown.length ≤ place then
        shown ++ List.replicate (place - Int.ofNat shown.length).toNat (Point.ofChar '0')
      else shown.take place.toNat ++ "." ++ shown.drop place.toNat
    if left == place then body
    else body ++ "E" ++ (if left - place > 0 then ("+" : Text) else "") ++ Text.ofInt (left - place)

/-- The number without the power of ten of a finite one, and that power. -/
def signedDigits (negative : Bool) (digits : Nat) : Int := if negative then -Int.ofNat digits else Int.ofNat digits

/-- The integer that a finite number is, if it is one. -/
def integer? (d : Decimal) : Option Int :=
  match d.kind with
  | .finite digits exponent =>
    if exponent ≥ 0 then some (signedDigits d.negative (digits * 10 ^ exponent.toNat))
    else
      let unit := 10 ^ (-exponent).toNat
      if digits % unit == 0 then some (signedDigits d.negative (digits / unit)) else none
  | _ => none

/-- The nearest floating-point number to a finite number. -/
def toBinary64 (d : Decimal) : Binary64 :=
  match d.kind with
  | .finite digits exponent => Binary64.ofDecimal d.negative digits exponent
  | .infinite => Binary64.infinity d.negative
  | .nan _ _ => Binary64.nan

/-- The value of digits of any script. -/
def digitsOf (t : Text) : Nat := t.foldl (fun n p => n * 10 + p.decimal?.getD 0) 0

/-- Reads a number: digits with a point anywhere or none, an exponent, or a word for what is not finite. -/
def parse? (t : Text) : Option Decimal :=
  let t := (Text.strip t).filter fun p => !p.is '_'
  let (negative, t) := match t with
    | p :: rest => if p.is '-' then (true, rest) else if p.is '+' then (false, rest) else (false, t)
    | [] => (false, t)
  let word := Text.asciiLower t
  if word.is "inf" || word.is "infinity" then some ⟨negative, .infinite⟩
  else if (Text.ofString "nan").isPrefixOf word && (word.drop 3).all Point.isDecimal then
    some ⟨negative, .nan false (t.drop 3)⟩
  else if (Text.ofString "snan").isPrefixOf word && (word.drop 4).all Point.isDecimal then
    some ⟨negative, .nan true (t.drop 4)⟩
  else
    let whole := t.takeWhile Point.isDecimal
    let t := t.drop whole.length
    let (fraction, t) := match t with
      | p :: rest => if p.is '.' then (rest.takeWhile Point.isDecimal, rest.dropWhile Point.isDecimal) else ([], t)
      | [] => ([], t)
    if whole.isEmpty && fraction.isEmpty then none
    else
      let value := digitsOf (whole ++ fraction)
      let scale := -Int.ofNat fraction.length
      match t with
      | [] => some ⟨negative, .finite value scale⟩
      | e :: rest =>
        if !(e.is 'e' || e.is 'E') then none
        else
          let (down, rest) := match rest with
            | p :: more => if p.is '-' then (true, more) else if p.is '+' then (false, more) else (false, rest)
            | [] => (false, rest)
          if rest.isEmpty || !rest.all Point.isDecimal then none
          else
            let n := Int.ofNat (digitsOf rest)
            some ⟨negative, .finite value (scale + (if down then -n else n))⟩

end Decimal

end PhaseScript
