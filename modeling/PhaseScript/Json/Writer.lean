import PhaseScript.Json.Basic
/-
Writing JSON. A style says how far apart things stand and whether the text is ASCII alone; a number that is not
finite or an integer with too many digits can be refused before anything is written.
-/
set_option autoImplicit false

namespace PhaseScript.Json

/-- How a value is laid out. -/
structure Style where
  ascii : Bool
  itemSeparator : Text
  nameSeparator : Text
  /-- What one level is set in by; without one everything stands on one line. -/
  indent : Option Text

/-- The usual style: one line, a blank after each comma and colon, ASCII alone. -/
def Style.spaced : Style := ⟨true, ", ", ": ", none⟩

/-- The style of response bodies: no blanks, every character as it is. -/
def Style.compact : Style := ⟨false, ",", ":", none⟩

/-- The two halves of a point past FFFF as escapes. -/
def surrogateEscapes (n : Nat) : Text :=
  "\\u" ++ Text.hex 4 (0xD800 + (n - 0x10000) / 1024) ++ "\\u" ++ Text.hex 4 (0xDC00 + (n - 0x10000) % 1024)

/-- A point inside quotes. -/
def quotedPoint (ascii : Bool) (p : Point) : Text :=
  if p.is '"' then "\\\"" else if p.is '\\' then "\\\\"
  else if p.is '\n' then "\\n" else if p.is '\r' then "\\r" else if p.is '\t' then "\\t"
  else if p.val == 8 then "\\b" else if p.val == 12 then "\\f"
  else if p.val < 32 then "\\u" ++ Text.hex 4 p.val
  else if !ascii || p.val < 127 then [p]
  else if p.val < 0x10000 then "\\u" ++ Text.hex 4 p.val
  else surrogateEscapes p.val

/-- A text in quotes. -/
def quoted (ascii : Bool) (t : Text) : Text :=
  Point.ofChar '"' :: t.flatMap (quotedPoint ascii) ++ [Point.ofChar '"']

/-- The text of a number; the lax dialect has words for the infinities and NaN. -/
def floatText (x : Binary64) : Text :=
  if x.isNaN then "NaN"
  else if x.isInfinite then (if x.isNegative then "-Infinity" else "Infinity")
  else x.text

/-- A new line at a depth, when the style has lines. -/
def Style.newLine (style : Style) (depth : Nat) : Text :=
  match style.indent with
  | none => []
  | some unit => Point.ofChar '\n' :: (List.replicate depth unit).flatten

mutual

/-- The text of a value at a depth. -/
def renderAt (style : Style) (depth : Nat) : Json → Text
  | .null => "null"
  | .bool true => "true"
  | .bool false => "false"
  | .int n => Text.ofInt n
  | .float x => floatText x
  | .string t => quoted style.ascii t
  | .array [] => "[]"
  | .array (item :: items) =>
    Point.ofChar '[' :: style.newLine (depth + 1) ++ renderAt style (depth + 1) item
      ++ renderItems style (depth + 1) items ++ style.newLine depth ++ [Point.ofChar ']']
  | .object [] => "\x7b\x7d"
  | .object ((name, value) :: members) =>
    Point.ofChar '\x7b' :: style.newLine (depth + 1) ++ quoted style.ascii name ++ style.nameSeparator
      ++ renderAt style (depth + 1) value ++ renderMembers style (depth + 1) members
      ++ style.newLine depth ++ [Point.ofChar '\x7d']

/-- The items after the first one. -/
def renderItems (style : Style) (depth : Nat) : List Json → Text
  | [] => []
  | item :: items =>
    style.itemSeparator ++ style.newLine depth ++ renderAt style depth item ++ renderItems style depth items

/-- The members after the first one. -/
def renderMembers (style : Style) (depth : Nat) : List (Text × Json) → Text
  | [] => []
  | (name, value) :: members =>
    style.itemSeparator ++ style.newLine depth ++ quoted style.ascii name ++ style.nameSeparator
      ++ renderAt style depth value ++ renderMembers style depth members

end

/-- The text of a value. -/
def render (style : Style) (value : Json) : Text := renderAt style 0 value

/-- Why a value is not written. -/
inductive WriteFault where
  | notFinite
  | tooManyDigits
  deriving DecidableEq, Repr

def WriteFault.message : WriteFault → Text
  | .notFinite => "Out of range float values are not JSON compliant"
  | .tooManyDigits => "Exceeds the limit (4300 digits) for integer string conversion; use sys.set_int_max_str_digits() to increase the limit"

/-- Whether an integer has more digits than may be written. -/
def tooManyDigits (n : Int) : Bool := 10 ^ 4300 ≤ n.natAbs

mutual

/-- The first thing that must not be written, in the order of writing. -/
def writeFault? (strict : Bool) : Json → Option WriteFault
  | .float x => if strict && !x.isFinite then some .notFinite else none
  | .int n => if tooManyDigits n then some .tooManyDigits else none
  | .array items => itemsFault? strict items
  | .object members => membersFault? strict members
  | _ => none

def itemsFault? (strict : Bool) : List Json → Option WriteFault
  | [] => none
  | item :: items => (writeFault? strict item).or (itemsFault? strict items)

def membersFault? (strict : Bool) : List (Text × Json) → Option WriteFault
  | [] => none
  | (_, value) :: members => (writeFault? strict value).or (membersFault? strict members)

end

/-- The text of a value, or the first thing in it that must not be written; `strict` refuses the numbers that are
not finite. -/
def write (style : Style) (strict : Bool) (value : Json) : Except WriteFault Text :=
  match writeFault? strict value with
  | some fault => .error fault
  | none => .ok (render style value)

end PhaseScript.Json
