import PhaseScript.Json.Basic
/-
Reading JSON in the lax dialect: `NaN` and the infinities are numbers, of several members with one name the last
one counts in the place of the first, and an integer may have 4300 digits at most. The first fault is reported
with its place.
-/
set_option autoImplicit false

namespace PhaseScript.Json

/-- What can be wrong with a JSON text at one place. -/
inductive Fault where
  | value
  | name
  | colon
  | comma
  | unterminated
  | control
  | escape
  | hexEscape
  | extra
  | mark
  deriving DecidableEq, Repr

def Fault.words : Fault → String
  | .value => "Expecting value"
  | .name => "Expecting property name enclosed in double quotes"
  | .colon => "Expecting ':' delimiter"
  | .comma => "Expecting ',' delimiter"
  | .unterminated => "Unterminated string starting at"
  | .control => "Invalid control character at"
  | .escape => "Invalid \\escape"
  | .hexEscape => "Invalid \\uXXXX escape"
  | .extra => "Extra data"
  | .mark => "Unexpected UTF-8 BOM (decode using utf-8-sig)"

/-- Why a text is not read: a fault at a number of points before the end, an integer of too many digits, or an array or
object inside too many others. -/
inductive Refusal where
  | fault (kind : Fault) (left : Nat)
  | tooManyDigits (count : Nat)
  | tooDeep (isArray : Bool)
  deriving DecidableEq, Repr

/-- The most digits an integer may have. -/
def maxDigits : Nat := 4300

/-- How many arrays and objects may lie inside each other. -/
def maxDepth : Nat := 970

/-- The line of a place, counted from one. -/
def lineOf (before : Text) : Nat := (before.filter (·.is '\n')).length + 1

/-- The column of a place in its line, counted from one. -/
def columnOf (before : Text) : Nat := (before.reverse.takeWhile fun p => !p.is '\n').length + 1

/-- The words for an integer with too many digits. -/
def digitLimit (count : Nat) : Text :=
  "Exceeds the limit (4300 digits) for integer string conversion: value has " ++ Text.ofNat count
    ++ " digits; use sys.set_int_max_str_digits() to increase the limit"

/-- A refusal in words, the place as line, column and count of points before it. -/
def Refusal.message (whole : Text) : Refusal → Text
  | .fault kind left =>
    let place := whole.length - left
    let before := whole.take place
    kind.words ++ ": line " ++ Text.ofNat (lineOf before) ++ " column " ++ Text.ofNat (columnOf before)
      ++ " (char " ++ Text.ofNat place ++ ")"
  | .tooManyDigits count => digitLimit count
  | .tooDeep isArray =>
    "maximum recursion depth exceeded while decoding a JSON " ++ (if isArray then ("array" : Text) else "object")
      ++ " from a unicode string"

/-- What a reader gives: a value and the rest of the text. -/
abbrev Read (α : Type) := Except Refusal (α × Text)

def faultAt {α : Type} (kind : Fault) (rest : Text) : Read α := .error (.fault kind rest.length)

/-- The four blanks of JSON. -/
def isBlank (p : Point) : Bool := p.val == 32 || p.val == 9 || p.val == 10 || p.val == 13

def skipBlank (t : Text) : Text := t.dropWhile isBlank

/-- Four hexadecimal digits. -/
def hexFour? : Text → Option (Nat × Text)
  | a :: b :: c :: d :: rest =>
    match a.asciiDigit?, b.asciiDigit?, c.asciiDigit?, d.asciiDigit? with
    | some a, some b, some c, some d =>
      if a < 16 && b < 16 && c < 16 && d < 16 then some (((a * 16 + b) * 16 + c) * 16 + d, rest) else none
    | _, _, _, _ => none
  | _ => none

/-- The point that a letter stands for after a backslash. -/
def escapeLetter? (p : Point) : Option Char :=
  if p.is '"' then some '"' else if p.is '\\' then some '\\' else if p.is '/' then some '/'
  else if p.is 'b' then some '\x08' else if p.is 'f' then some '\x0c' else if p.is 'n' then some '\n'
  else if p.is 'r' then some '\r' else if p.is 't' then some '\t' else none

/-- The low half that continues a high one, when another escape follows and something follows that. -/
def lowHalf (after : Text) : Except Refusal (Option (Nat × Text)) :=
  match after with
  | a :: b :: rest =>
    if a.is '\\' && b.is 'u' && 4 < rest.length then
      match hexFour? rest with
      | none => .error (.fault .hexEscape (rest.length + 1))
      | some (low, rest) => .ok (if 0xDC00 ≤ low && low < 0xE000 then some (low, rest) else none)
    else .ok none
  | _ => .ok none

/-- A `\u` escape, from the letter on. A pair of escapes that spell a surrogate pair is one point. -/
def readHexEscape (atLetter : Text) : Read Point :=
  let digits := atLetter.drop 1
  if digits.length ≤ 4 then faultAt .hexEscape atLetter
  else match hexFour? digits with
    | none => faultAt .hexEscape atLetter
    | some (first, rest) =>
      if 0xD800 ≤ first && first < 0xDC00 then
        match lowHalf rest with
        | .error e => .error e
        | .ok (some (low, rest)) =>
          .ok (Point.ofNat (0x10000 + (first - 0xD800) * 1024 + (low - 0xDC00)), rest)
        | .ok none => .ok (Point.ofNat first, rest)
      else .ok (Point.ofNat first, rest)

/-- The rest of a string, given what was read of it, last first, and the size of the text at its quote. A strict reader
takes no control characters. -/
def readString (isStrict : Bool) (quoteSize : Nat) : Nat → Text → Text → Read Text
  | 0, _, _ => .error (.fault .unterminated quoteSize)
  | _ + 1, [], _ => .error (.fault .unterminated quoteSize)
  | fuel + 1, p :: rest, read =>
    if p.is '"' then .ok (read.reverse, rest)
    else if p.is '\\' then
      match rest with
      | [] => .error (.fault .unterminated quoteSize)
      | letter :: after =>
        if letter.is 'u' then
          match readHexEscape (letter :: after) with
          | .error e => .error e
          | .ok (q, rest) => readString isStrict quoteSize fuel rest (q :: read)
        else match escapeLetter? letter with
          | some c => readString isStrict quoteSize fuel after (Point.ofChar c :: read)
          | none => faultAt .escape (p :: rest)
    else if isStrict && p.val < 32 then faultAt .control (p :: rest)
    else readString isStrict quoteSize fuel rest (p :: read)

/-- The digits at the front of a text. -/
def takeDigits (t : Text) : Text × Text := (t.takeWhile Point.isAsciiDigit, t.dropWhile Point.isAsciiDigit)

/-- The number that decimal digits spell. -/
def digitsValue (digits : Text) : Nat := digits.foldl (fun n p => n * 10 + (p.val - 48)) 0

/-- A fraction: a point and at least one digit. -/
def takeFraction (t : Text) : Text × Text :=
  match t with
  | p :: rest =>
    let (digits, after) := takeDigits rest
    if p.is '.' && !digits.isEmpty then (digits, after) else ([], t)
  | [] => ([], t)

/-- An exponent: the letter, perhaps a sign, and at least one digit. -/
def takeExponent (t : Text) : Option Int × Text :=
  match t with
  | e :: rest =>
    if e.is 'e' || e.is 'E' then
      let (negative, rest) := match rest with
        | s :: more => if s.is '-' then (true, more) else if s.is '+' then (false, more) else (false, rest)
        | [] => (false, rest)
      let (digits, after) := takeDigits rest
      if digits.isEmpty then (none, t)
      else (some (if negative then -Int.ofNat (digitsValue digits) else Int.ofNat (digitsValue digits)), after)
    else (none, t)
  | [] => (none, t)

/-- The number that is spelled by its parts. -/
def floatOf (negative : Bool) (whole fraction : Text) (exponent : Int) : Binary64 :=
  Binary64.ofDecimal negative (digitsValue (whole ++ fraction)) (exponent - Int.ofNat fraction.length)

/-- A number as it is spelled: all of it, and its parts. -/
structure Spelling where
  text : Text
  negative : Bool
  whole : Text
  fraction : Text
  exponent : Option Int
  deriving DecidableEq, Repr, Inhabited

namespace Spelling

/-- Whether an integer is spelled. -/
def isInteger (s : Spelling) : Bool := s.fraction.isEmpty && s.exponent.isNone

/-- The number that is spelled. -/
def value (s : Spelling) : Except Refusal Json :=
  if !s.isInteger then .ok (.float (floatOf s.negative s.whole s.fraction (s.exponent.getD 0)))
  else if s.whole.length > maxDigits then .error (.tooManyDigits s.whole.length)
  else .ok (.int (if s.negative then -Int.ofNat (digitsValue s.whole) else Int.ofNat (digitsValue s.whole)))

end Spelling

/-- The spelling of a number, from its first point on. -/
def readNumber (start : Text) : Read Spelling :=
  let (negative, t) := match start with
    | p :: rest => if p.is '-' then (true, rest) else (false, start)
    | [] => (false, start)
  let (digits, afterDigits) := takeDigits t
  let (whole, rest) := match digits with
    | p :: more => if p.is '0' then ([p], more ++ afterDigits) else (digits, afterDigits)
    | [] => ([], afterDigits)
  if whole.isEmpty then faultAt .value start
  else
    let (fraction, rest) := takeFraction rest
    let (exponent, rest) := takeExponent rest
    .ok (⟨start.take (start.length - rest.length), negative, whole, fraction, exponent⟩, rest)

/-- The words of the dialect that are no numbers, and their values. -/
def words : List (Text × Json) := [("null", .null), ("true", .bool true), ("false", .bool false)]

/-- The words of the dialect for numbers, and their values. -/
def numberWords : List (Text × Binary64) :=
  [("NaN", Binary64.nan), ("Infinity", Binary64.infinity false), ("-Infinity", Binary64.infinity true)]

/-- What a reader makes of the parts of a text, in turn as they end. -/
structure Maker (m : Type → Type) (α : Type) where
  /-- A string, or a value that a word stands for. -/
  plain : Json → m α
  number : Spelling → m α
  numberWord : Text → Binary64 → m α
  array : List α → m α
  /-- The members of an object; a name may come several times. -/
  object : List (Text × α) → m α

/-- The JSON value of each part. -/
def Maker.json : Maker (Except Refusal) Json where
  plain := .ok
  number := Spelling.value
  numberWord _ x := .ok (.float x)
  array items := .ok (.array items)
  object members := .ok (.object (members.foldl (fun found (name, value) => put name value found) []))

section

variable {m : Type → Type} [Monad m] [MonadExceptOf Refusal m] {α : Type}

/-- What is read, or the refusal as an exception. -/
def orRefuse {β : Type} : Except Refusal β → m β
  | .ok b => return b
  | .error e => throw e

def refuseAt {β : Type} (kind : Fault) (rest : Text) : m β := throw (.fault kind rest.length)

/-- A value that is neither string nor array nor object. -/
def readScalar (make : Maker m α) (t : Text) : m (α × Text) := do
  match words.find? fun entry => entry.1.isPrefixOf t, numberWords.find? fun entry => entry.1.isPrefixOf t with
  | some (word, value), _ => return (← make.plain value, t.drop word.length)
  | none, some (word, x) => return (← make.numberWord word x, t.drop word.length)
  | none, none =>
    let (spelling, rest) ← orRefuse (readNumber t)
    return (← make.number spelling, rest)

mutual

/-- A value. The fuel is twice the size of the text; so many arrays and objects may still begin inside each other. -/
def readValue (make : Maker m α) (isStrict : Bool) : Nat → Nat → Text → m (α × Text)
  | 0, _, t => refuseAt .value t
  | _ + 1, _, [] => refuseAt .value []
  | fuel + 1, room, p :: rest => do
    if p.is '"' then
      let (t, rest) ← orRefuse (readString isStrict (rest.length + 1) (rest.length + 1) rest [])
      return (← make.plain (.string t), rest)
    else if p.is '[' || p.is '{' then
      let isArray := p.is '['
      match room, skipBlank rest with
      | 0, _ => throw (.tooDeep isArray)
      | room + 1, q :: after =>
        if isArray && q.is ']' then return (← make.array [], after)
        else if !isArray && q.is '}' then return (← make.object [], after)
        else if isArray then readItems make isStrict fuel room (q :: after) []
        else readMembers make isStrict fuel room (q :: after) []
      | room + 1, [] =>
        if isArray then readItems make isStrict fuel room [] [] else readMembers make isStrict fuel room [] []
    else readScalar make (p :: rest)

/-- The items of an array from a value on, given those before, last first. -/
def readItems (make : Maker m α) (isStrict : Bool) : Nat → Nat → Text → List α → m (α × Text)
  | 0, _, t, _ => refuseAt .value t
  | fuel + 1, room, t, items => do
    let (item, rest) ← readValue make isStrict fuel room t
    match skipBlank rest with
    | [] => refuseAt .comma []
    | q :: after =>
      if q.is ']' then return (← make.array (item :: items).reverse, after)
      else if q.is ',' then readItems make isStrict fuel room (skipBlank after) (item :: items)
      else refuseAt .comma (q :: after)

/-- The members of an object from a name on, given those before, last first. -/
def readMembers (make : Maker m α) (isStrict : Bool) : Nat → Nat → Text → List (Text × α) → m (α × Text)
  | 0, _, t, _ => refuseAt .name t
  | _ + 1, _, [], _ => refuseAt .name []
  | fuel + 1, room, p :: rest, members => do
    if !p.is '"' then refuseAt .name (p :: rest)
    else
      let (name, rest) ← orRefuse (readString isStrict (rest.length + 1) (rest.length + 1) rest [])
      match skipBlank rest with
      | [] => refuseAt .colon []
      | c :: after =>
        if !c.is ':' then refuseAt .colon (c :: after)
        else
          let (value, rest) ← readValue make isStrict fuel room (skipBlank after)
          let members := (name, value) :: members
          match skipBlank rest with
          | [] => refuseAt .comma []
          | q :: after =>
            if q.is '}' then return (← make.object members.reverse, after)
            else if q.is ',' then readMembers make isStrict fuel room (skipBlank after) members
            else refuseAt .comma (q :: after)

end

/-- What is made of a whole text, blanks around it allowed. So many arrays and objects may lie inside each other. -/
def readWith (make : Maker m α) (isStrict : Bool) (room : Nat) (t : Text) : m α := do
  match t with
  | p :: _ =>
    if p.val == 0xFEFF then refuseAt .mark t
    else
      let (value, rest) ← readValue make isStrict (2 * t.length + 2) room (skipBlank t)
      match skipBlank rest with
      | [] => return value
      | left => refuseAt .extra left
  | [] => refuseAt .value []

end

/-- The value of a whole text in which so many arrays and objects may lie inside each other. -/
def readWithin (room : Nat) (t : Text) : Except Refusal Json := readWith Maker.json true room t

/-- The value of a whole text of a depth that is usual. -/
def read (t : Text) : Except Refusal Json := readWithin maxDepth t

end PhaseScript.Json
