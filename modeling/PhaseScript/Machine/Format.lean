import PhaseScript.Machine.Snapshot
import PhaseScript.Machine.Compare
import PhaseScript.Machine.Interp
import PhaseScript.Text.Template
/-
Values set into text: in the fields of text literals and in those of templates.
-/
set_option autoImplicit false

namespace PhaseScript.Machine.Run

/-- The text of a layout, or its fault raised. -/
def laidOut (result : Except Layout.Fault Text) : Run Text :=
  match result with
  | .ok t => return t
  | .error fault => raise (if fault.isRange then .overflowError else .valueError) fault.message

/-- What sets a day or a time by a pattern needs a module of the host, and a script may import none. -/
def refuseImport {α : Type} : Run α := raiseArgs .keyError [.text "__import__"]

def midnight : ClockTime := ⟨0, 0, 0, 0, none⟩

/-- The text of a complex number as a layout asks: both parts in the same form, the second always with a sign. -/
def formatComplex (asked : Text) (re im : Binary64) : Run Text := do
  let result : Except Layout.Fault Text := do
    let l ← Layout.parse "complex" .right none asked
    match l.kind with
    | some k => if !"eEfFgGn".toList.any k.is then throw (.unknownKind k "complex")
    | none => pure ()
    if l.fill.is '0' then throw (.unwanted "Zero padding is not allowed in complex format specifier")
    if l.align == .inner then throw (.unwanted "'=' alignment flag is not allowed in complex format specifier")
    let shortest := l.kind.isNone && l.precision.isNone
    let part : Layout := { l with
      width := 0, fill := Point.ofChar ' ', align := .right, kind := l.kind.getD (Point.ofChar 'g') }
    let signedPart : Layout := { part with sign := some (Point.ofChar '+') }
    let bare (x : Binary64) : Text := if l.alternate then Layout.pointed x.abs.textBare else x.abs.textBare
    let shown (part : Layout) (x : Binary64) : Except Layout.Fault Text :=
      if shortest then
        let digits := (bare x).takeWhile Point.isAsciiDigit
        .ok (part.number (x.isNegative && !(l.plainZero && x.isZero)) [] digits ((bare x).drop digits.length))
      else part.float x
    let first ← shown part re
    let second ← shown signedPart im
    if l.kind.isNone && re.isZero && !re.isNegative then
      let alone ← shown part im
      return l.place (alone ++ "j")
    else if l.kind.isNone then return l.place ("(" ++ first ++ second ++ "j)")
    else return l.place (first ++ second ++ "j")
  laidOut result

/-- The text of a value as a layout asks. -/
def formatValue (v : Value) (asked : Text) : Run Text := do
  if asked.isEmpty then plainText v
  else match v with
    | .text t => laidOut (Layout.ofText asked t)
    | .int n => do
      checkDigits (.int n)
      laidOut (Layout.ofInt "int" asked n)
    | .bool b => laidOut (Layout.ofInt "bool" asked (if b then 1 else 0))
    | .float x => laidOut (Layout.ofFloat asked x)
    | .complex re im => formatComplex asked re im
    | .date _ | .moment _ | .clock _ => refuseImport
    | _ => typeErrorOf "unsupported format string passed to " v ".__format__"

/-- The text that a field makes of a value before it is set in. -/
def converted (conversion : Script.Conversion) (v : Value) : Run Value :=
  match conversion with
  | .none => return v
  | .plain => return .text (← plainText v)
  | .quoted => return .text (← quotedText v)
  | .ascii => return .text (Text.escapeBeyondAscii (← quotedText v))

/-- The values that a template takes. -/
structure TemplateValues where
  /-- What keys are looked up in, if there is such a thing. -/
  lookup : Option (Value → Run Value)
  left : List Value
  /-- Whether a value must not be left over. -/
  counted : Bool

/-- What tells templates of text from templates of octets. -/
structure TemplateStyle where
  /-- The word for the whole in complaints. -/
  noun : Text
  faultWords : Template.Fault → Text
  /-- The key that is looked up. -/
  key : Text → Value
  /-- The text of a directive for its value: on which side it is set, its width and its precision. -/
  fill : Template.Directive → Bool → Nat → Option Nat → Value → Run Text

def takeValue (values : TemplateValues) : Run (Value × TemplateValues) :=
  match values.left with
  | v :: rest => return (v, { values with left := rest })
  | [] => typeError "not enough arguments for format string"

/-- A width or a precision, which must fit in so many bits; a negative width says that the field is filled on the
right. -/
def takeTemplateCount (bits : Nat) (kind : Text) (count : Template.Count) (values : TemplateValues) :
    Run (Option Int × TemplateValues) :=
  match count with
  | .absent => return (none, values)
  | .fixed n => return (some (Int.ofNat n), values)
  | .taken => do
    let (v, values) ← takeValue values
    match v.int? with
    | some n =>
      if n ≥ 2 ^ bits || n < -(2 ^ bits) then
        raise .overflowError ("Python int too large to convert to C " ++ kind)
      else return (some n, values)
    | none => typeError "* wants int"

/-- The width of a field that still fits into memory. -/
def fieldWidth (width : Option Int) : Run Nat :=
  let n := (width.getD 0).natAbs
  if n > 100000000 then raiseArgs .memoryError [] else return n

/-- The number that a value is where a floating-point number is wanted. -/
def floatOf (v : Value) : Run Binary64 :=
  match v with
  | .float x => return x
  | _ => match v.int? with
    | some n =>
      let x := Binary64.ofInt n
      if x.isInfinite then raise .overflowError "int too large to convert to float" else return x
    | none => typeErrorOf "must be real number, not " v []

/-- The integer part of a floating-point number. -/
def integerPart (x : Binary64) : Run Int :=
  if x.isNaN then valueError "cannot convert float NaN to integer"
  else if x.isInfinite then raise .overflowError "cannot convert float infinity to integer"
  else return x.truncate

/-- The integer of a directive, and its text. -/
def fillInteger (d : Template.Directive) (left : Bool) (width : Nat) (precision : Option Nat) (v : Value) : Run Text :=
  let decimal := "diu".toList.any d.kind.is
  match v, v.int? with
  | _, some n => do
    if decimal then checkDigits (.int n)
    return d.integer left width precision n
  | .float x, none =>
    if decimal then return d.integer left width precision (← integerPart x)
    else typeErrorOf ("%" ++ [d.kind] ++ " format: an integer is required, not ") v []
  | _, none =>
    typeErrorOf ("%" ++ [d.kind] ++ " format: " ++ (if decimal then ("a real number" : Text) else "an integer")
      ++ " is required, not ") v []

/-- The complaint about a letter that asks for nothing known. -/
def unknownDirective {α : Type} (d : Template.Directive) (shown : Text) : Run α :=
  valueError ("unsupported format character '" ++ shown ++ "' (0x" ++ Text.ofNatBase 16 d.kind.val ++ ") at index "
    ++ Text.ofNat d.place)

/-- One directive's text in a text. -/
def fillText (d : Template.Directive) (left : Bool) (width : Nat) (precision : Option Nat) (v : Value) :
    Run Text := do
  let cut (t : Text) : Text := d.field left width (match precision with
    | some n => t.take n
    | none => t)
  match Char.ofNat d.kind.val with
  | 's' => return cut (← plainText v)
  | 'r' => return cut (← quotedText v)
  | 'a' => return cut (Text.escapeBeyondAscii (← quotedText v))
  | 'c' =>
    match v with
    | .text [p] => return d.field left width [p]
    | _ => match v.int? with
      | some n =>
        if n < 0 || n > 0x10FFFF then raise .overflowError "%c arg not in range(0x110000)"
        else return d.field left width [Point.ofNat n.toNat]
      | none => typeError "%c requires int or char"
  | 'd' | 'i' | 'u' | 'o' | 'x' | 'X' => fillInteger d left width precision v
  | 'e' | 'E' | 'f' | 'F' | 'g' | 'G' => return d.float left width precision (← floatOf v)
  | _ => unknownDirective d (if 31 < d.kind.val && d.kind.val < 127 then [d.kind] else "?")

/-- One directive's text in octets, each octet as a point. -/
def fillOctets (d : Template.Directive) (left : Bool) (width : Nat) (precision : Option Nat) (v : Value) :
    Run Text := do
  let cut (t : Text) : Text := d.field left width (match precision with
    | some n => t.take n
    | none => t)
  match Char.ofNat d.kind.val with
  | 's' | 'b' =>
    match v with
    | .bytes b => return cut (b.map fun o => Point.ofNat o.toNat)
    | _ => typeErrorOf "%b requires a bytes-like object, or an object that implements __bytes__, not '" v "'"
  | 'r' | 'a' => return cut (Text.escapeBeyondAscii (← quotedText v))
  | 'c' =>
    match v with
    | .bytes [o] => return d.field left width [Point.ofNat o.toNat]
    | _ => match v.int? with
      | some n =>
        if n < 0 || n > 255 then raise .overflowError "%c arg not in range(256)"
        else return d.field left width [Point.ofNat n.toNat]
      | none => typeError "%c requires an integer in range(256) or a single byte"
  | 'd' | 'i' | 'u' => fillInteger { d with kind := Point.ofChar 'd' } left width precision v
  | 'o' | 'x' | 'X' => fillInteger d left width precision v
  | 'e' | 'E' | 'f' | 'F' | 'g' | 'G' =>
    match ← catching (floatOf v) with
    | .ok x => return d.float left width precision x
    | .error _ => typeErrorOf "float argument required, not " v []
  | _ => unknownDirective d [d.kind]

/-- Templates of text. -/
def textStyle : TemplateStyle := ⟨"string", Template.Fault.message, .text, fillText⟩

/-- Templates of octets. -/
def octetStyle : TemplateStyle :=
  ⟨"bytes", fun fault => if fault == .precisionTooBig then "prec too big" else fault.message,
    fun key => .bytes (key.map fun p => UInt8.ofNat p.val), fillOctets⟩

/-- What keys are looked up in. -/
def lookupOf (values : TemplateValues) : Run (Value → Run Value) :=
  match values.lookup with
  | some lookup => return lookup
  | none => typeError "format requires a mapping"

/-- Looks a key of a directive up; the value found is then the only one. -/
def lookUp (style : TemplateStyle) (key : Option Text) (values : TemplateValues) : Run TemplateValues :=
  match key with
  | none => return values
  | some key => do
    let lookup ← lookupOf values
    return { values with left := [← lookup (style.key key)], counted := false }

def fillPieces (style : TemplateStyle) : List Template.Piece → TemplateValues → Run Text
  | [], values =>
    if values.counted && !values.left.isEmpty then
      typeError ("not all arguments converted during " ++ style.noun ++ " formatting")
    else return []
  | .plain t :: rest, values => do return t ++ (← fillPieces style rest values)
  | .broken key fault :: _, values => do
    if fault == .openKey then
      let _ ← lookupOf values
    let _ ← lookUp style key values
    valueError (style.faultWords fault)
  | .directive d :: rest, values => do
    let values ← lookUp style d.key values
    let (width, values) ← takeTemplateCount 63 "ssize_t" d.width values
    let (precision, values) ← takeTemplateCount 31 "int" d.precision values
    let left := width.any (· < 0)
    let (v, values) ← takeValue values
    let shown ← style.fill d left (← fieldWidth width) (precision.map Int.toNat) v
    return shown ++ (← fillPieces style rest values)

/-- Whether keys can be looked up in a value that is set into a text or into octets. -/
def isLookup (octets : Bool) (v : Value) : Run Bool := do
  match v with
  | .bytes _ => return !octets
  | .range _ _ _ => return true
  | _ => match ← cell? v with
    | some (.list _) | some (.dict _ _) | some (.proxy _) => return true
    | _ => return false

/-- What a template takes from a value; `get` looks a key up in it. -/
def templateValues (get : Value → Value → Run Value) (octets : Bool) (v : Value) : Run TemplateValues := do
  match v with
  | .tuple items _ => return ⟨none, items, true⟩
  | _ =>
    let lookup ← isLookup octets v
    return ⟨if lookup then some (get v) else none, [v], !lookup⟩

/-- A template of text with its values filled in. -/
def fillTemplate (get : Value → Value → Run Value) (template : Text) (v : Value) : Run Text := do
  fillPieces textStyle (Template.pieces template) (← templateValues get false v)

/-- A template of octets with its values filled in. -/
def fillOctetTemplate (get : Value → Value → Run Value) (template : Bytes) (v : Value) : Run Bytes := do
  let filled ← fillPieces octetStyle (Template.pieces (template.map fun o => Point.ofNat o.toNat))
    (← templateValues get true v)
  return filled.map fun p => UInt8.ofNat p.val

end PhaseScript.Machine.Run
