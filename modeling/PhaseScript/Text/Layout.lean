import PhaseScript.Number.FloatText
import PhaseScript.Text.Category
/-
Layouts: how a value is set into its field, as a short text asks: the filling, the side, the sign, the width, the
groups of digits, the precision, and a letter for the form.
-/
set_option autoImplicit false

namespace PhaseScript

/-- Which side of a field is filled. -/
inductive Alignment where
  | left
  | right
  | center
  /-- Filled between the sign and the digits. -/
  | inner
  deriving DecidableEq, Repr, Inhabited

/-- A layout. -/
structure Layout where
  fill : Point
  align : Alignment
  sign : Option Point
  /-- A negative zero loses its sign. -/
  plainZero : Bool
  alternate : Bool
  width : Nat
  separator : Option Char
  precision : Option Nat
  kind : Option Point
  deriving Repr, Inhabited

namespace Layout

/-- What is wrong with a layout. -/
inductive Fault where
  | tooManyDigits
  | twoSeparators
  | noPrecision
  | malformed (asked typeName : Text)
  | separatorWithKind (separator : Char) (kind : Point)
  | unknownKind (kind : Point) (typeName : Text)
  /-- Something that a kind of value has no use for. -/
  | unwanted (words : Text)
  | noSuchPoint
  | tooWide
  | tooLarge
  deriving DecidableEq, Repr, Inhabited

/-- Whether the fault is a number out of range rather than a wrong layout. -/
def Fault.isRange : Fault → Bool
  | .noSuchPoint | .tooWide | .tooLarge => true
  | _ => false

def Fault.message : Fault → Text
  | .tooManyDigits => "Too many decimal digits in format string"
  | .twoSeparators => "Cannot specify both ',' and '_'."
  | .noPrecision => "Format specifier missing precision"
  | .malformed asked typeName => "Invalid format specifier '" ++ asked ++ "' for object of type '" ++ typeName ++ "'"
  | .separatorWithKind separator kind =>
    let shown : Text := if 32 < kind.val && kind.val < 128 then [kind] else "\\x" ++ Text.ofNatBase 16 kind.val
    "Cannot specify '" ++ [Point.ofChar separator] ++ "' with '" ++ shown ++ "'."
  | .unknownKind kind typeName =>
    let shown : Text := if 32 < kind.val && kind.val < 128 then [kind] else "\\x" ++ Text.ofNatBase 16 kind.val
    "Unknown format code '" ++ shown ++ "' for object of type '" ++ typeName ++ "'"
  | .unwanted words => words
  | .noSuchPoint => "%c arg not in range(0x110000)"
  | .tooWide => "Python int too large to convert to C long"
  | .tooLarge => "int too large to convert to float"

def alignment? (p : Point) : Option Alignment :=
  if p.is '<' then some .left else if p.is '>' then some .right
  else if p.is '^' then some .center else if p.is '=' then some .inner else none

/-- The number at the front of a text, if there is one, and the rest. -/
def takeNumber (t : Text) : Except Fault (Option Nat × Text) :=
  let digits := t.takeWhile fun p => p.decimal?.isSome
  let n := digits.foldl (fun n p => n * 10 + p.decimal?.getD 0) 0
  if digits.isEmpty then .ok (none, t)
  else if n > 9223372036854775807 then .error .tooManyDigits
  else .ok (some n, t.drop digits.length)

/-- The point at the front of a text, if it is one of these. -/
def takeOne (chars : List Char) : Text → Option Point × Text
  | [] => (none, [])
  | p :: rest => if chars.any p.is then (some p, rest) else (none, p :: rest)

/-- The filling and the side at the front of a layout. -/
def takeAlignment (t : Text) : Option Point × Option Alignment × Text :=
  match t with
  | fill :: p :: rest =>
    match alignment? p, alignment? fill with
    | some side, _ => (some fill, some side, rest)
    | none, some side => (none, some side, p :: rest)
    | none, none => (none, none, t)
  | [p] => (none, alignment? p, if (alignment? p).isSome then [] else [p])
  | [] => (none, none, [])

/-- The separator of groups of digits, if the kind of layout has one. -/
def checkSeparator (separator : Option Char) (kind : Option Point) : Except Fault Unit :=
  match separator, kind with
  | some c, some k =>
    if "defgEG%F".toList.any k.is then .ok ()
    else if c == '_' && "boxX".toList.any k.is then .ok ()
    else .error (.separatorWithKind c k)
  | _, _ => .ok ()

/-- Reads a layout for a value of a type, with the side it is set to if the layout says none and the kind that is
meant where the letter is left out. -/
def parse (typeName : Text) (side : Alignment) (kind : Option Point) (whole : Text) : Except Fault Layout := do
  let (fill, align, rest) := takeAlignment whole
  let (sign, rest) := takeOne [' ', '+', '-'] rest
  let (plainZero, rest) := takeOne ['z'] rest
  let (alternate, rest) := takeOne ['#'] rest
  let (zero, rest) := if fill.isNone then takeOne ['0'] rest else (none, rest)
  let align := match align with
    | some a => a
    | none => if zero.isSome && side == .right then .inner else side
  let (width, rest) ← takeNumber rest
  let (comma, rest) := takeOne [','] rest
  let (underscore, rest) := takeOne ['_'] rest
  if comma.isSome && underscore.isSome then throw .twoSeparators
  if underscore.isSome && (takeOne [','] rest).1.isSome then throw .twoSeparators
  let (point, rest) := takeOne ['.'] rest
  let (precision, rest) ← if point.isSome then takeNumber rest else .ok (none, rest)
  if point.isSome && precision.isNone then throw .noPrecision
  let kind ← match rest with
    | [] => .ok kind
    | [k] => .ok (some k)
    | _ => .error (.malformed whole typeName)
  let separator := if comma.isSome then some ',' else if underscore.isSome then some '_' else none
  checkSeparator separator kind
  return {
    fill := (fill.or (zero.map fun _ => Point.ofChar '0')).getD (Point.ofChar ' ')
    align, sign, plainZero := plainZero.isSome, alternate := alternate.isSome, width := width.getD 0, separator
    precision, kind }

/-- The places to fill on either side of something so long. -/
def room (l : Layout) (length : Nat) : Nat × Nat :=
  let free := l.width - length
  match l.align with
  | .left => (0, free)
  | .center => (free / 2, free - free / 2)
  | _ => (free, 0)

/-- A text set into its field. -/
def place (l : Layout) (t : Text) : Text :=
  let (before, after) := l.room t.length
  List.replicate before l.fill ++ t ++ List.replicate after l.fill

/-- The text of a text value. -/
def text (l : Layout) (t : Text) : Except Fault Text :=
  match l.kind with
  | some k =>
    if !k.is 's' then .error (.unknownKind k "str")
    else match l.sign with
      | some s =>
        .error (.unwanted ((if s.is ' ' then ("Space" : Text) else "Sign")
          ++ " not allowed in string format specifier"))
      | none =>
        if l.plainZero then .error (.unwanted "Negative zero coercion (z) not allowed in string format specifier")
        else if l.alternate then .error (.unwanted "Alternate form (#) not allowed in string format specifier")
        else if l.align == .inner then .error (.unwanted "'=' alignment not allowed in string format specifier")
        else .ok (l.place (match l.precision with
          | some n => t.take n
          | none => t))
  | none => .ok (l.place t)

/-- Groups of digits from the right, filled with zeros up to a width; a separator is never the first. The fuel bounds
the number of groups. -/
def grouped (size : Nat) (separator : Char) : Nat → Nat → Text → Text
  | 0, _, digits => digits.reverse
  | fuel + 1, least, digits =>
    let length := min size (max (max digits.length least) 1)
    let group := (digits.take length ++ List.replicate (length - digits.length) (Point.ofChar '0')).reverse
    let rest := digits.drop length
    if rest.isEmpty && least ≤ length then group
    else grouped size separator fuel (least - length - 1) rest ++ Point.ofChar separator :: group

/-- The digits before the point, in groups if that is asked for, and with zeros up to a width. -/
def digitsField (l : Layout) (least : Nat) (digits : Text) : Text :=
  if digits.isEmpty then []
  else match l.separator with
    | none => Text.padLeft least '0' digits
    | some c =>
      let size := if l.kind.any fun k => "boxX".toList.any k.is then 4 else 3
      grouped size c (digits.length + least + 1) least digits.reverse

/-- A number set into its field: a sign, what goes before the digits, the digits, and what follows them. -/
def number (l : Layout) (negative : Bool) (lead digits tail : Text) : Text :=
  let sign : Text := if negative then "-" else match l.sign with
    | some s => if s.is '-' then [] else [s]
    | none => []
  let around := sign.length + lead.length + tail.length
  let least := if l.fill.is '0' && l.align == .inner then l.width - around else 0
  let body := l.digitsField least digits
  match l.align with
  | .inner => sign ++ lead ++ List.replicate (l.width - (around + body.length)) l.fill ++ body ++ tail
  | _ => l.place (sign ++ lead ++ body ++ tail)

def upper (shout : Bool) (t : Text) : Text := if shout then Text.asciiUpper t else t

/-- The text of a number with a point after its whole digits, if it has none. -/
def pointed (t : Text) : Text :=
  let whole := t.takeWhile Point.isAsciiDigit
  match t.drop whole.length with
  | p :: rest => if p.is 'e' then whole ++ "." ++ p :: rest else t
  | [] => if whole.isEmpty then t else whole ++ "."

/-- The magnitude of a number in the form that the kind asks for. Without a kind it is the shortest text, or with a
precision the general form that keeps a point. -/
def magnitude (l : Layout) (x : Binary64) : Text :=
  let letter := l.kind.map fun k => Char.ofNat k.val
  let precision := l.precision.getD 6
  if x.isNaN then "nan" else if x.isInfinite then "inf"
  else match letter with
    | some 'e' | some 'E' => x.exponentMagnitude precision l.alternate
    | some 'f' | some 'F' | some '%' => x.fixedMagnitude precision l.alternate
    | some 'g' | some 'G' | some 'n' => x.generalMagnitude precision l.alternate
    | _ => match l.precision with
      | none => if l.alternate then pointed x.abs.text else x.abs.text
      | some n =>
        -- One place is kept for the digit after the point.
        let count := if n == 0 then 1 else n
        let (digits, exponent) := x.roundedDigits count
        if exponent < -4 || Int.ofNat count ≤ exponent + 1 then
          let shown := Text.digits count digits
          let body := shown.take 1 ++ Point.ofChar '.' :: shown.drop 1
          (if l.alternate then body else Binary64.trimFraction body) ++ Binary64.exponentText exponent
        else
          let body := x.generalMagnitude count l.alternate
          if body.any (·.is '.') then body else body ++ ".0"

/-- The text of a floating-point number. -/
def float (l : Layout) (x : Binary64) : Except Fault Text :=
  let known := match l.kind with
    | none => true
    | some k => "eEfFgGn%".toList.any k.is
  match known, l.kind with
  | false, some k => .error (.unknownKind k "float")
  | _, _ =>
    let isPercent := l.kind.any (·.is '%')
    let shout := l.kind.any fun k => "EFG".toList.any k.is
    let x := if isPercent then x.mul (Binary64.ofInt 100) else x
    let whole := upper shout (l.magnitude x) ++ (if isPercent then ("%" : Text) else [])
    let digits := whole.takeWhile Point.isAsciiDigit
    let isZero := !whole.any fun p => 49 ≤ p.val && p.val ≤ 57
    let negative := x.isNegative && !x.isNaN && !(l.plainZero && isZero && x.isFinite)
    .ok (l.number negative [] digits (whole.drop digits.length))

/-- The text of an integer in a base, with what goes before it in the alternate form. -/
def integer (l : Layout) (n : Int) : Except Fault Text :=
  let letter := l.kind.map fun k => Char.ofNat k.val
  if l.precision.isSome then .error (.unwanted "Precision not allowed in integer format specifier")
  else if l.plainZero then .error (.unwanted "Negative zero coercion (z) not allowed in integer format specifier")
  else if letter == some 'c' then
    if l.sign.isSome then .error (.unwanted "Sign not allowed with integer format specifier 'c'")
    else if l.alternate then .error (.unwanted "Alternate form (#) not allowed with integer format specifier 'c'")
    else if n ≥ 2 ^ 63 || n < -(2 ^ 63) then .error .tooWide
    else if n < 0 || n > 0x10FFFF then .error .noSuchPoint
    else .ok (l.number false [] [] [Point.ofNat n.toNat])
  else
    let base := match letter with
      | some 'b' => 2
      | some 'o' => 8
      | some 'x' | some 'X' => 16
      | _ => 10
    let lead : Text := if !l.alternate then [] else match letter with
      | some 'b' => "0b"
      | some 'o' => "0o"
      | some 'x' => "0x"
      | some 'X' => "0X"
      | _ => []
    .ok (l.number (n < 0) lead (upper (letter == some 'X') (Text.ofNatBase base n.natAbs)) [])

/-- The text of a text value as a layout asks. -/
def ofText (asked t : Text) : Except Fault Text := do (← parse "str" .left (some (Point.ofChar 's')) asked).text t

/-- The text of a floating-point number as a layout asks. -/
def ofFloat (asked : Text) (x : Binary64) : Except Fault Text := do (← parse "float" .right none asked).float x

/-- The text of an integer as a layout asks; some kinds show it as a floating-point number. -/
def ofInt (typeName asked : Text) (n : Int) : Except Fault Text := do
  let l ← parse typeName .right (some (Point.ofChar 'd')) asked
  match l.kind with
  | some k =>
    if "bcdoxXn".toList.any k.is then l.integer n
    else if "eEfFgG%".toList.any k.is then
      if (Binary64.ofInt n).isInfinite then .error .tooLarge else l.float (Binary64.ofInt n)
    else .error (.unknownKind k typeName)
  | none => l.integer n

end Layout

end PhaseScript
