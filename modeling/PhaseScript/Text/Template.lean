import PhaseScript.Text.Layout
/-
Templates: texts with directives after a per cent sign, each of which shows one value in a field.
-/
set_option autoImplicit false

namespace PhaseScript

/-- A count that is written in a directive, or left out, or taken from the values. -/
inductive Template.Count where
  | absent
  | fixed (n : Nat)
  | taken
  deriving DecidableEq, Repr, Inhabited

/-- How one value is shown. -/
structure Template.Directive where
  key : Option Text
  flags : List Char
  width : Template.Count
  precision : Template.Count
  kind : Point
  /-- The place of the letter in the template. -/
  place : Nat
  deriving Repr, Inhabited

/-- What is wrong with a directive. -/
inductive Template.Fault where
  | openKey
  | cutShort
  | widthTooBig
  | precisionTooBig
  deriving DecidableEq, Repr, Inhabited

def Template.Fault.message : Template.Fault → Text
  | .openKey => "incomplete format key"
  | .cutShort => "incomplete format"
  | .widthTooBig => "width too big"
  | .precisionTooBig => "precision too big"

/-- A part of a template. -/
inductive Template.Piece where
  | plain (t : Text)
  | directive (d : Template.Directive)
  /-- A directive that cannot be read; the key is given if it was. -/
  | broken (key : Option Text) (fault : Template.Fault)
  deriving Repr, Inhabited

namespace Template

/-- The text up to the bracket that closes one opened before it, and what follows. -/
def takeKey : Nat → Text → Text → Option (Text × Text)
  | _, _, [] => none
  | depth, key, p :: rest =>
    if p.is ')' then
      match depth with
      | 0 => some (key.reverse, rest)
      | depth + 1 => takeKey depth (p :: key) rest
    else takeKey (if p.is '(' then depth + 1 else depth) (p :: key) rest

def flagLetters : List Char := ['-', '+', ' ', '#', '0']

/-- A count at the front of a text, with the most that may be written. -/
def takeCount (most : Nat) (tooBig : Fault) : Text → Except Fault (Count × Text)
  | [] => .ok (.absent, [])
  | p :: rest =>
    if p.is '*' then .ok (.taken, rest)
    else
      let digits := (p :: rest).takeWhile Point.isAsciiDigit
      let n := digits.foldl (fun n d => n * 10 + (d.val - 48)) 0
      if digits.isEmpty then .ok (.absent, p :: rest)
      else if n > most then .error tooBig
      else .ok (.fixed n, (p :: rest).drop digits.length)

/-- A directive whose sign has been read. `size` is the length of the whole template. -/
def takeDirective (size : Nat) (key : Option Text) (t : Text) : Except Fault (Directive × Text) := do
  let isFlag (p : Point) : Bool := flagLetters.any p.is
  let flags := (t.takeWhile isFlag).map fun p => Char.ofNat p.val
  let (width, rest) ← takeCount (2 ^ 63 - 1) .widthTooBig (t.dropWhile isFlag)
  let (precision, rest) ← match rest with
    | p :: after =>
      if p.is '.' then do
        let (count, rest) ← takeCount (2 ^ 31 - 1) .precisionTooBig after
        pure (if count == .absent then .fixed 0 else count, rest)
      else pure (.absent, rest)
    | [] => pure (.absent, [])
  let rest := match rest with
    | p :: after => if ['h', 'l', 'L'].any p.is then after else rest
    | [] => []
  match rest with
  | [] => throw .cutShort
  | kind :: after => return (⟨key, flags, width, precision, kind, size - rest.length⟩, after)

/-- The parts of a template. A doubled sign is the sign itself. The fuel is the length of the template. -/
def piecesFrom (size : Nat) : Nat → Text → List Piece
  | 0, _ => []
  | fuel + 1, t =>
    let plain := t.takeWhile fun p => !p.is '%'
    let before : List Piece := if plain.isEmpty then [] else [.plain plain]
    match t.drop plain.length with
    | [] => before
    | sign :: rest =>
      if rest.head?.any fun p => p.is '%' then before ++ .plain [sign] :: piecesFrom size fuel (rest.drop 1) else
      let keyed : Option (Option Text × Text) := match rest with
        | p :: after => if p.is '(' then (takeKey 0 [] after).map fun (k, r) => (some k, r) else some (none, rest)
        | [] => some (none, [])
      match keyed with
      | none => before ++ [.broken none .openKey]
      | some (key, rest) =>
        match takeDirective size key rest with
        | .error fault => before ++ [.broken key fault]
        | .ok (d, rest) => before ++ .directive d :: piecesFrom size fuel rest

/-- The parts of a template. -/
def pieces (t : Text) : List Piece := piecesFrom t.length (t.length + 1) t

/-- A text in a field. -/
def Directive.field (d : Directive) (left : Bool) (width : Nat) (t : Text) : Text :=
  if left || d.flags.contains '-' then Text.padRight width ' ' t else Text.padLeft width ' ' t

/-- A number in a field: the sign, what goes before the digits, the digits. -/
def Directive.numberField (d : Directive) (left : Bool) (width : Nat) (negative : Bool) (lead digits : Text) : Text :=
  let sign : Text := if negative then "-" else if d.flags.contains '+' then "+"
    else if d.flags.contains ' ' then " " else []
  let left := left || d.flags.contains '-'
  if d.flags.contains '0' && !left then
    sign ++ lead ++ Text.padLeft (width - (sign.length + lead.length)) '0' digits
  else d.field left width (sign ++ lead ++ digits)

/-- An integer in a field. -/
def Directive.integer (d : Directive) (left : Bool) (width : Nat) (precision : Option Nat) (n : Int) : Text :=
  let base := if d.kind.is 'o' then 8 else if d.kind.is 'x' || d.kind.is 'X' then 16 else 10
  let digits := Text.padLeft (precision.getD 0) '0' (Text.ofNatBase base n.natAbs)
  let digits := if d.kind.is 'X' then Text.asciiUpper digits else digits
  let lead : Text := if d.flags.contains '#' && base != 10 then [Point.ofChar '0', d.kind] else []
  d.numberField left width (n < 0) lead digits

/-- A floating-point number in a field. -/
def Directive.float (d : Directive) (left : Bool) (width : Nat) (precision : Option Nat) (x : Binary64) : Text :=
  let l : Layout := ⟨Point.ofChar ' ', .right, none, false, d.flags.contains '#', 0, none, some (precision.getD 6),
    some d.kind⟩
  let shout := "EFG".toList.any d.kind.is
  d.numberField left width (x.isNegative && !x.isNaN) [] (Layout.upper shout (l.magnitude x))

end Template

end PhaseScript
