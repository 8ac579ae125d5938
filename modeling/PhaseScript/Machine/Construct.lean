import PhaseScript.Machine.Attributes
import PhaseScript.Number.Reading
import PhaseScript.Datum.Exception
import PhaseScript.Machine.JsonFunctions
import PhaseScript.Machine.Sessions
/-
Making values by calling their types.
-/
set_option autoImplicit false

namespace PhaseScript.Machine.Run

/-- Refuses named arguments of a type. -/
def noNames (owner : Text) (named : List (Text × Value)) : Run Unit :=
  if named.isEmpty then return () else typeError (owner ++ "() takes no keyword arguments")

/-- The arguments of a type, of which none is named. -/
def plainArguments (name : Text) (least most : Nat) (args : List Value) (named : List (Text × Value)) : Run Unit := do
  noNames name named
  checkSpan name least most args.length

/-- The integer that a text is, or the complaint. -/
def intOfText (base : Nat) (t shown : Text) : Run Value :=
  match Text.readInt base t with
  | .ok n => return .int n
  | .error (.tooManyDigits count) => valueError (Json.digitLimit count)
  | .error .invalid => valueError ("invalid literal for int() with base " ++ Text.ofNat base ++ ": " ++ shown)

/-- An integer from a value, and perhaps the base it is written in. -/
def makeInt (args : List (Option Value)) : Run Value := do
  match given? args 0, given? args 1 with
  | none, none => return .int 0
  | none, some _ => typeError "int() missing string argument"
  | some v, none =>
    match v with
    | .text t => intOfText 10 t (Text.quoted t)
    | .bytes b => intOfText 10 (Bytes.toPoints b) (Bytes.quoted b)
    | .float x => return .int (← integerPart x)
    | _ => match v.int? with
      | some n => return .int n
      | none => typeErrorOf "int() argument must be a string, a bytes-like object or a real number, not '" v "'"
  | some v, some base =>
    let base ← index base
    if base != 0 && (base < 2 || base > 36) then valueError "int() base must be >= 2 and <= 36, or 0"
    match v with
    | .text t => intOfText base.toNat t (Text.quoted t)
    | .bytes b => intOfText base.toNat (Bytes.toPoints b) (Bytes.quoted b)
    | _ => typeError "int() can't convert non-string with explicit base"

/-- A floating-point number from a value. -/
def makeFloat (v : Option Value) : Run Value := do
  let ofText (t shown : Text) : Run Value :=
    match Text.readFloat? t with
    | some x => return .float x
    | none => valueError ("could not convert string to float: " ++ shown)
  match v with
  | none => return .float Binary64.zero
  | some v => match v with
    | .text t => ofText t (Text.quoted t)
    | .bytes b => ofText (Bytes.toPoints b) (Bytes.quoted b)
    | .float x => return .float x
    | _ => match v.int? with
      | some n => return .float (← floatOfInt n)
      | none => typeErrorOf "float() argument must be a string or a real number, not '" v "'"

/-- The complex number that a text is: a real part, an imaginary one, or both. -/
def complexOfText? (t : Text) : Option Complex :=
  let body := Text.strip t
  let body := match body with
    | p :: rest => if p.is '(' && Text.endsWith rest ")" then Text.strip (rest.take (rest.length - 1)) else body
    | [] => []
  let isUnit (p : Point) : Bool := p.is 'j' || p.is 'J'
  let imaginary (t : Text) : Option Binary64 :=
    if t.isEmpty || t.is "+" then some (Binary64.ofInt 1)
    else if t.is "-" then some (Binary64.ofInt (-1))
    else Text.readFloat? t
  if body.any Point.isBlank then none
  else match body.reverse with
  | last :: front =>
    if isUnit last then
      let front := front.reverse
      -- The sign of the imaginary part is the last one that no exponent has.
      let cut := (List.range front.length).reverse.find? fun k =>
        0 < k && ((front[k]?).any fun p => p.is '+' || p.is '-')
          && !((front[k - 1]?).any fun p => p.is 'e' || p.is 'E')
      match cut with
      | some k => do return ⟨← Text.readFloat? (front.take k), ← imaginary (front.drop k)⟩
      | none => (imaginary front).map fun im => ⟨Binary64.zero, im⟩
    else (Text.readFloat? body).map .ofReal
  | [] => none

/-- Whether a line stands anywhere but between two digits. -/
def strayLine (t : Text) : Bool :=
  let isDigitAt (k : Nat) : Bool := (t[k]?).any Point.isAsciiDigit
  (List.range t.length).any fun k =>
    ((t[k]?).any fun p => p.is '_') && !(0 < k && isDigitAt (k - 1) && isDigitAt (k + 1))

/-- A complex number from its parts. -/
def makeComplex (args : List (Option Value)) : Run Value := do
  let part (v : Value) (words : Text) : Run Complex :=
    match v with
    | .complex re im => return ⟨re, im⟩
    | .float x => return .ofReal x
    | _ => match v.int? with
      | some n => do return .ofReal (← floatOfInt n)
      | none => typeErrorOf words v "'"
  let isComplex (v : Option Value) : Bool := match v with
    | some (.complex _ _) => true
    | _ => false
  let second := given? args 1
  match given? args 0 with
  | some (.text t) =>
    if second.isSome then typeError "complex() can't take second arg if first is a string"
    match complexOfText? t with
    | some z => return .complex z.re z.im
    | none =>
      if strayLine t then valueError ("could not convert string to complex: " ++ Text.quoted t)
      else valueError "complex() arg is a malformed string"
  | first =>
    match second with
    | some (.text _) => typeError "complex() second arg can't be a string"
    | _ =>
      let z ← part (first.getD (.int 0)) "complex() first argument must be a string or a number, not '"
      match second with
      | none => return .complex z.re z.im
      | some v => do
        let w ← part v "complex() second argument must be a number, not '"
        return .complex (if isComplex second then z.re.sub w.im else z.re)
          (if isComplex first then z.im.add w.re else w.re)

/-- The text of a value, or that of octets in a named encoding. -/
def makeText (args : List (Option Value)) : Run Value := do
  let _ ← codecArguments "str" (args.drop 1)
  match given? args 0, given? args 1, given? args 2 with
  | none, none, none => return .text []
  | some v, none, none => return .text (← plainText v)
  | some (.bytes b), encoding, policy => decodedBytes "str" b [encoding, policy]
  | some (.text _), _, _ => typeError "decoding str is not supported"
  | some v, _, _ => typeErrorOf "decoding to str: need a bytes-like object, " v " found"
  | none, _, _ => return .text []

/-- A range; its numbers must be integers. -/
def makeRange (args : List Value) : Run Value := do
  match args with
  | [stop] => return .range 0 (← index stop) 1
  | [start, stop] => return .range (← index start) (← index stop) 1
  | start :: stop :: step :: _ =>
    let start ← index start
    let stop ← index stop
    let step ← index step
    if step == 0 then valueError "range() arg 3 must not be zero"
    return .range start stop step
  | [] => return .none

/-- A dict from another one, from a row of pairs, and from names. -/
def makeDict (m : Interp) (args : List Value) (named : List (Text × Value)) : Run Value := do
  checkSpan "dict" 0 1 args.length
  let d ← newDict []
  match args, d with
  | v :: _, .ref address => updateFrom m address v
  | _, _ => pure ()
  match d with
  | .ref address => modifyDict address fun entries => named.foldl (fun entries (n, v) => putEntry entries (.text n) v) entries
  | _ => pure ()
  return d

/-- What an argument of an exception must be: a text, octets, a place, or anything. -/
inductive ArgumentKind where
  | text
  | bytes
  | place
  deriving DecidableEq, Repr

/-- What the arguments of exceptions of a kind must be, if that is fixed. -/
def fixedArguments? (kind : ExceptionKind) : Option (List ArgumentKind) :=
  if kind == .unicodeDecodeError then some [.text, .bytes, .place, .place, .text]
  else if kind == .unicodeEncodeError then some [.text, .text, .place, .place, .text]
  else if kind == .unicodeTranslateError then some [.text, .place, .place, .text]
  else none

/-- Refuses an argument that is not what it must be, by its number. Octets are asked for after all others. -/
def checkArgument (number : Nat) (kind : ArgumentKind) (v : Value) : Run Unit := do
  match kind, v with
  | .text, .text _ | .bytes, _ => return ()
  | .text, _ => refuseArgument ("argument " ++ Text.ofNat number ++ " must be str") v
  | .place, _ => let _ ← sizeIndex v

/-- Refuses arguments that are not what they must be. -/
def checkFixed (kinds : List ArgumentKind) (args : List Value) : Run Unit := do
  if args.length != kinds.length then
    typeError ("function takes exactly " ++ Text.ofNat kinds.length ++ " arguments (" ++ Text.ofNat args.length
      ++ " given)")
  for ((kind, v), k) in (kinds.zip args).zipIdx do
    checkArgument (k + 1) kind v
  for (kind, v) in kinds.zip args do
    match kind, v with
    | .bytes, .bytes _ => pure ()
    | .bytes, _ => typeErrorOf "a bytes-like object is required, not '" v "'"
    | _, _ => pure ()

/-- The names that exceptions of some kinds may be given values for. -/
def attributeNames (kind : ExceptionKind) : List Text :=
  if kind.is .importError then ["name", "path"]
  else if kind == .attributeError then ["name", "obj"]
  else if kind.is .nameError then ["name"]
  else []

def valueView : ArgumentView Value where
  isNone
    | .none => true
    | _ => false
  int? := Value.int?

/-- What an error of syntax knows of its place: four to six items of its second argument. -/
def syntaxPlace (m : Interp) (args : List Value) : Run (List (Text × Value)) := do
  match args with
  | [_, info] =>
    let info ← itemsOf m info
    let given := " arguments (" ++ Text.ofNat info.length ++ " given)"
    if info.length < 4 then typeError ("function takes at least 4" ++ given)
    if 6 < info.length then typeError ("function takes at most 6" ++ given)
    if info.length == 5 then typeError "end_offset must be provided when end_lineno is provided"
    return ExceptionParts.placeNames.zip info
  | _ => return []

/-- The parameters of the error of a text that is not JSON. -/
def jsonErrorSignature : Signature Value :=
  ⟨"JSONDecodeError.__init__", (["self", "msg", "doc", "pos"] : List Text).map fun name => ⟨name, .positional, none⟩⟩

/-- The error of a text that is not JSON: its message names the line and the column of the place. -/
def makeJsonError (m : Interp) (args : List Value) (named : List (Text × Value)) : Run Value := do
  let bound ← bindPlain jsonErrorSignature (.none :: args) named
  let (message, doc, pos) := (boundOne bound 1, boundOne bound 2, boundOne bound 3)
  let line ← binaryAs m item "+" .add (← callNamed m doc "count" [.text "\n", .int 0, pos]) (.int 1)
  let column ← binaryAs m item "-" .subtract pos (← callNamed m doc "rfind" [.text "\n", .int 0, pos])
  let text ← fillTemplate item "%s: line %d column %d (char %d)" (.tuple [message, line, column, pos] .items)
  alloc (.exception .jsonDecodeError [.text text]
    [("msg", message), ("doc", doc), ("pos", pos), ("lineno", line), ("colno", column)])

/-- A new exception of a kind. A system error with a number is of the kind that the number stands for. -/
def makeException (m : Interp) (kind : ExceptionKind) (args : List Value) (named : List (Text × Value)) :
    Run Value := do
  if kind == .jsonDecodeError then return ← makeJsonError m args named
  let names := attributeNames kind
  let owner := Text.ofString kind.name
  match named.find? fun n => !names.contains n.1 with
  | some (name, _) =>
    if names.isEmpty then typeError (owner ++ "() takes no keyword arguments")
    else typeError ("'" ++ name ++ "' is an invalid keyword argument for " ++ owner ++ "()")
  | none => pure ()
  match fixedArguments? kind with
  | some kinds => checkFixed kinds args
  | none => pure ()
  if kind.is .osError then
    let parts := ExceptionParts.ofSystemError valueView kind args
    alloc (.exception parts.kind parts.args parts.details)
  else if kind.is .syntaxError then alloc (.exception kind args (← syntaxPlace m args))
  else alloc (.exception kind args named)

/-- Refuses what is no small integer. -/
def smallOnly (v : Value) : Run Unit := do
  let _ ← smallInt v

/-- The arguments of a counted row: what is counted, and the first number. -/
def countedArguments (args : List Value) (named : List (Text × Value)) : Run (Value × Option Value) := do
  let refuse (name : Text) : Run (Value × Option Value) :=
    typeError ("'" ++ name ++ "' is an invalid keyword argument for enumerate()")
  match args, named with
  | [v], [] => return (v, none)
  | [v, start], [] => return (v, some start)
  | [v], [(name, start)] => if name.is "start" then return (v, some start) else refuse name
  | [], [(name, v)] => if name.is "iterable" then return (v, none) else refuse name
  | [], [(name, v), (other, w)] =>
    if name.is "iterable" then (if other.is "start" then return (v, some w) else refuse other)
    else if name.is "start" then (if other.is "iterable" then return (w, some v) else refuse other)
    else refuse name
  | [], _ => typeError "enumerate() missing required argument 'iterable'"
  | _, _ =>
    typeError ("enumerate() takes at most 2 arguments (" ++ Text.ofNat (args.length + named.length) ++ " given)")

/-- Calls a type. -/
def construct (m : Interp) (t : TypeName) (args : List Value) (named : List (Text × Value)) : Run Value := do
  let iterable (name : Text) (make : List Value → Run Value) : Run Value := do
    plainArguments name 0 1 args named
    match args with
    | v :: _ => make (← itemsOf m v)
    | [] => make []
  match t with
  | .object =>
    if !(args.isEmpty && named.isEmpty) then typeError "object() takes no arguments"
    alloc (.foreign (.thing "object" "<object object>"))
  | .bool =>
    plainArguments "bool" 0 1 args named
    match args with
    | v :: _ => return .bool (← truth v)
    | [] => return .bool false
  | .int => makeInt (← takeNamed "int()" ⟨["", "base"], 0, 1, 2⟩ args named)
  | .float =>
    plainArguments "float" 0 1 args named
    makeFloat args.head?
  | .complex => makeComplex (← takeNamed "complex()" ⟨["real", "imag"], 0, 0, 2⟩ args named)
  | .text => makeText (← takeNamed "str()" ⟨["object", "encoding", "errors"], 0, 0, 3⟩ args named)
  | .list => iterable "list" newList
  | .tuple =>
    match args with
    | [.tuple items mark] =>
      plainArguments "tuple" 0 1 args named
      plainRow items mark
    | _ => iterable "tuple" newTuple
  | .dict => makeDict m args named
  | .set => do
    plainArguments "set" 0 1 args named
    match args with
    | v :: _ => return .ref (← setFrom m v)
    | [] => newSet ItemTable.empty
  | .range =>
    plainArguments "range" 1 3 args named
    makeRange args
  | .slice =>
    plainArguments "slice" 1 3 args named
    match args with
    | [stop] => return .slice .none stop .none
    | [start, stop] => return .slice start stop .none
    | start :: stop :: step :: _ => return .slice start stop step
    | [] => return .none
  | .bytes => return .none
  | .enumerate => do
    let (v, start) ← countedArguments args named
    let start ← match start with
      | some n => index n
      | none => pure 0
    newIterator "enumerate" (.counted (← iterator v) start)
  | .map =>
    noNames "map" named
    match args with
    | f :: v :: rest => newIterator "map" (.mapped f (← (v :: rest).mapM iterator))
    | _ => typeError "map() must have at least two arguments."
  | .filter =>
    plainArguments "filter" 2 2 args named
    newIterator "filter" (.kept (args.getD 0 .none) (← iterator (args.getD 1 .none)))
  | .date => makeDate (← takeNamedAfter smallOnly "function" dateParameters args named)
  | .moment =>
    makeMoment (← takeNamedAfter smallOnly "function" ⟨dateParameters.names ++ clockNames, 3, 0, 8⟩ args named)
  | .clock => return .clock (← makeClock (← takeNamed "function" ⟨clockNames, 0, 0, 5⟩ args named) 0 midnight)
  | .duration => newDuration (← takeNamed "__new__()" ⟨["days", "seconds", "microseconds", "milliseconds", "minutes",
      "hours", "weeks"], 0, 0, 7⟩ args named)
  | .session => newSession args named
  | .exception kind => makeException m kind args named

/-- The function of every type that lists the types above it. -/
def lineageMethod (t : TypeName) : Method Unit :=
  ⟨lineageName, .nothing false, fun _ _ _ => newList (t.lineage.map .type)⟩

/-- Calls a way to make values that a type has. -/
def callMaker (m : Interp) (t : TypeName) (name : Text) (args : List Value) (named : List (Text × Value)) :
    Run Value :=
  match if name.is lineageName then some (lineageMethod t) else maker? t name with
  | some method => method.call t.name m () args named
  | none => return .none

end PhaseScript.Machine.Run
