import PhaseScript.Machine.Intake
import PhaseScript.Machine.Arithmetic
import PhaseScript.Machine.Attributes
import PhaseScript.Datum.JsonText
import PhaseScript.Invocation
import PhaseScript.Signature
/-
Reading and writing JSON in a script, with the options that a script may give.
-/
set_option autoImplicit false

namespace PhaseScript.Machine

namespace Run

/-- Binds the arguments of a plain function. -/
def bindPlain (s : Signature Value) (args : List Value) (named : List (Text × Value)) : Run (List (Bound Value)) :=
  match s.bind args named with
  | .ok bound => return bound
  | .error misfit => typeError (misfit.message s.owner)

/-- The value of a parameter that takes one. -/
def boundOne (bound : List (Bound Value)) (place : Nat) : Value :=
  match bound[place]? with
  | some (.one v) => v
  | _ => .none

/-- The named arguments that a parameter has collected. -/
def boundNamed (bound : List (Bound Value)) (place : Nat) : List (Text × Value) :=
  match bound[place]? with
  | some (.named entries) => entries
  | _ => []

/-- The exception that a text which is not JSON gives. -/
def jsonException (whole : Text) (refusal : Json.Refusal) : Run Value :=
  let message := refusal.message whole
  match refusal with
  | .tooManyDigits _ | .tooDeep _ => newException refusal.kind [.text message]
  | .fault kind left =>
    let place := whole.length - left
    let before := whole.take place
    alloc (.exception .jsonDecodeError [.text message] [("msg", .text (Text.ofString kind.words)), ("doc", .text whole),
      ("pos", .int (Int.ofNat place)), ("lineno", .int (Int.ofNat (Json.lineOf before))),
      ("colno", .int (Int.ofNat (Json.columnOf before)))])

/-- The functions that a script gives to make what is read. -/
structure JsonHooks where
  object : Option Value
  pairs : Option Value
  int : Option Value
  float : Option Value
  numberWord : Option Value

/-- What is made of the parts of a JSON text, by the functions of a script where it gives them. -/
def hookedMaker (m : Interp) (hooks : JsonHooks) : Json.Maker (ExceptT Json.Refusal Run) Value where
  plain v := ofJson v
  number s := do
    match if s.isInteger then hooks.int else hooks.float with
    | some f => m.apply f [.text s.text]
    | none => do
      let v ← Json.orRefuse s.value
      ofJson v
  numberWord word x := do
    match hooks.numberWord with
    | some f => m.apply f [.text word]
    | none => ofJson (.float x)
  array items := newList items
  object members := do
    match hooks.pairs, hooks.object with
    | some hook, _ => do
      let pairs ← members.mapM fun (name, v) => (newTuple [.text name, v] : Run Value)
      m.apply hook [← newList pairs]
    | none, hook => do
      let d ← newDict (members.foldl (fun found (name, v) => putNamed name v found) [] |>.map fun (name, v) =>
        (.text name, v))
      match hook with
      | some hook => m.apply hook [d]
      | none => return d

def noneParameter (name : String) (kind : ParameterKind) : FormalParameter Value :=
  ⟨Text.ofString name, kind, some .none⟩

def loadsSignature : Signature Value := ⟨"loads", [⟨"s", .positional, none⟩, noneParameter "cls" .keywordOnly,
  noneParameter "object_hook" .keywordOnly, noneParameter "parse_float" .keywordOnly,
  noneParameter "parse_int" .keywordOnly, noneParameter "parse_constant" .keywordOnly,
  noneParameter "object_pairs_hook" .keywordOnly, ⟨"kw", .keywords, none⟩]⟩

/-- The text of a JSON text or of octets that are one. -/
def jsonSource (v : Value) : Run Text := do
  let text ← match v with
    | .text t => pure t
    | .bytes b => match decodeMessage b with
      | .ok t => pure t
      | .error fault => raiseArgs .unicodeDecodeError [.text (Text.ofString fault.encoding), .bytes fault.octets,
          .int fault.start, .int fault.stop, .text (Text.ofString fault.reason)]
    | v => typeErrorOf "the JSON object must be str, bytes or bytearray, not " v []
  match text with
  | p :: _ => if p.val == 0xFEFF then raiseValue (← jsonException text (.fault .mark text.length)) else return text
  | [] => return text

/-- A value that is given, and `None` is not. -/
def unlessNone : Value → Option Value
  | .none => none
  | v => some v

/-- The value of a JSON text. -/
def loads (m : Interp) (args : List Value) (named : List (Text × Value)) : Run Value := do
  let bound ← bindPlain loadsSignature args named
  let text ← jsonSource (boundOne bound 0)
  let more := boundNamed bound 7
  match unlessNone (boundOne bound 1) with
  | some reader =>
    let options := ([("object_hook", 2), ("object_pairs_hook", 6), ("parse_float", 3), ("parse_int", 4),
      ("parse_constant", 5)] : List (Text × Nat)).filterMap fun (name, place) =>
        (unlessNone (boundOne bound place)).map fun v => (name, v)
    callNamed m (← m.call reader [] (more ++ options)) "decode" [.text text]
  | none =>
    match more.find? fun (name, _) => !name.is "strict" with
    | some (name, _) => typeError ("JSONDecoder.__init__() got an unexpected keyword argument '" ++ name ++ "'")
    | none => pure ()
    let isStrict ← match more with
      | (_, v) :: _ => truth v
      | [] => pure true
    let hook (place : Nat) : Run (Option Value) := do
      let v := boundOne bound place
      return if ← truth v then some v else none
    let maker := hookedMaker m ⟨unlessNone (boundOne bound 2), unlessNone (boundOne bound 6), ← hook 4, ← hook 3,
      ← hook 5⟩
    match ← (Json.readWith maker isStrict Json.maxDepth text).run with
    | .ok value => return value
    | .error refusal => raiseValue (← jsonException text refusal)

/-- Whether a datum has a JSON value of its own kind. -/
def isJsonKind : Datum → Bool
  | .none | .bool _ | .int _ | .float _ | .text _ | .list _ | .tuple _ | .week _ _ _ | .dict _ | .cycle _ => true
  | _ => false

/-- The datum of a value with all that has no JSON value handed to a function. The fuel bounds the depth. -/
def preparedDatum (m : Interp) (instead : Value) : Nat → List Nat → Value → Run Datum
  | 0, _, _ => raise .recursionError "maximum recursion depth exceeded while encoding a JSON object"
  | fuel + 1, path, v => do
    let each (path : List Nat) (items : List Value) : Run (List Datum) :=
      items.mapM (preparedDatum m instead fuel path)
    let replaced (path : List Nat) : Run Datum := do
      let w ← m.apply instead [v]
      -- What stands for itself is met inside itself.
      let isSame := match v with
        | .ref _ => false
        | v => v.sameKey w
      if isSame then return .cycle [] else preparedDatum m instead fuel path w
    match v with
    | .none | .bool _ | .int _ | .float _ | .text _ => snapshot v
    | .tuple items _ => return .tuple (← each path items)
    | .ref address =>
      if path.contains address then return .cycle []
      match ← cellAt address with
      | .list items => return .list (← each (address :: path) items.toList)
      | .dict entries _ => do
        let keys ← entries.toList.mapM fun e => snapshot e.1
        let values ← each (address :: path) (entries.toList.map (·.2))
        return .dict (keys.zip values)
      | _ => replaced (address :: path)
    | _ => replaced path

def dumpsSignature : Signature Value := ⟨"dumps", [⟨"obj", .positional, none⟩,
  ⟨"skipkeys", .keywordOnly, some (.bool false)⟩, ⟨"ensure_ascii", .keywordOnly, some (.bool true)⟩,
  ⟨"check_circular", .keywordOnly, some (.bool true)⟩, ⟨"allow_nan", .keywordOnly, some (.bool true)⟩,
  noneParameter "cls" .keywordOnly, noneParameter "indent" .keywordOnly, noneParameter "separators" .keywordOnly,
  noneParameter "default" .keywordOnly, ⟨"sort_keys", .keywordOnly, some (.bool false)⟩,
  ⟨"kw", .keywords, none⟩]⟩

/-- The two separators that a script asks for. -/
def separatorsOf (m : Interp) (v : Value) (isIndented : Bool) : Run (Value × Value) := do
  match v with
  | .none => return (.text (if isIndented then "," else ", "), .text ": ")
  | v => do
    let it ← fun w => match iterator v w with
      | .error _ w => typeErrorOf "cannot unpack non-iterable " v " object" w
      | reply => reply
    match ← itemsOf m it with
    | [item, name] => return (item, name)
    | items =>
      if items.length < 2 then
        valueError ("not enough values to unpack (expected 2, got " ++ Text.ofNat items.length ++ ")")
      else valueError "too many values to unpack (expected 2)"

/-- The separator that is a text; `place` is where it stands among what the writing starts from. -/
def separatorText (place : Nat) (v : Value) : Run Text :=
  match v with
  | .text t => return t
  | v => refuseArgument ("make_encoder() argument " ++ Text.ofNat place ++ " must be str") v

/-- The indentation that a script asks for. -/
def indentOf (v : Value) : Run (Option Text) :=
  match v with
  | .none => return none
  | .text t => return some t
  | v => return some (List.replicate (← repetitions v 1) (Point.ofChar ' '))

/-- The JSON text of a value. -/
def dumps (m : Interp) (args : List Value) (named : List (Text × Value)) : Run Value := do
  let bound ← bindPlain dumpsSignature args named
  match unlessNone (boundOne bound 5) with
  | some writer =>
    let options := (dumpsSignature.parameters.zip bound).filterMap fun (parameter, b) =>
      match b with
      | .one v => if parameter.name.is "obj" || parameter.name.is "cls" then none else some (parameter.name, v)
      | _ => none
    callNamed m (← m.call writer [] (options ++ boundNamed bound 10)) "encode" [boundOne bound 0]
  | none =>
  match boundNamed bound 10 with
  | (name, _) :: _ => typeError ("JSONEncoder.__init__() got an unexpected keyword argument '" ++ name ++ "'")
  | [] => pure ()
  let flag (place : Nat) : Run Bool := truth (boundOne bound place)
  let isIndented := match boundOne bound 6 with
    | .none => false
    | _ => true
  let (item, name) ← separatorsOf m (boundOne bound 7) isIndented
  -- A text alone is written without a look at the rest.
  let isAlone := match boundOne bound 0 with
    | .text _ => true
    | _ => false
  let indent ← if isAlone then pure none else indentOf (boundOne bound 6)
  let nameSeparator ← if isAlone then pure [] else separatorText 5 name
  let itemSeparator ← if isAlone then pure [] else separatorText 6 item
  let rules : Datum.JsonRules := ⟨indent.isSome, ← flag 1, ← flag 4, ← flag 9⟩
  let style : Json.Style := ⟨← flag 2, itemSeparator, nameSeparator, indent⟩
  let d ← match boundOne bound 8 with
    | .none => snapshot (boundOne bound 0)
    | instead => preparedDatum m instead 900 [] (boundOne bound 0)
  match d.jsonTextBy rules style with
  | .ok t => return .text t
  | .error refusal => raise refusal.kind refusal.message

end Run

end PhaseScript.Machine
