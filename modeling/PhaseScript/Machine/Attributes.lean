import PhaseScript.Machine.Makers
import PhaseScript.Machine.Promise
/-
Attributes. One that a value does not have reads as `None`; only the table of exports can be given any.
-/
set_option autoImplicit false

namespace PhaseScript.Machine

/-- Whether a table of methods has one with a name. -/
def hasMethod {σ : Type} (methods : List (Method σ)) (name : Text) : Bool := (findMethod? methods name).isSome

def isNamed (name : Text) (names : List String) : Bool := names.any fun n => name.is n

/-- The method of a value, if one of these tables has it. -/
def methodIf (found : Bool) (v : Value) (name : Text) : Option Value := if found then some (.method v name 0) else none

/-- The argument of an exception at a place. -/
def argAt (args : List Value) (place : Nat) : Value := args.getD place .none

/-- The names of the arguments of exceptions about a piece of text or octets. -/
def pieceNames (kind : ExceptionKind) : List String :=
  if kind == .unicodeDecodeError || kind == .unicodeEncodeError then ["encoding", "object", "start", "end", "reason"]
  else if kind == .unicodeTranslateError then ["object", "start", "end", "reason"]
  else []

/-- The attributes that exceptions of some kinds have from their arguments. -/
def kindAttribute? (kind : ExceptionKind) (args : List Value) (name : Text) : Option Value :=
  if kind.is .stopIteration && name.is "value" then some (argAt args 0)
  else if kind.is .osError && isNamed name ["errno", "strerror"] then
    if args.length < 2 || 5 < args.length then some .none
    else some (argAt args (if name.is "errno" then 0 else 1))
  else if isNamed name (pieceNames kind) then
    match argAt args ((pieceNames kind).idxOf (Text.toString name)) with
    | .bool b => some (.int (if b then 1 else 0))
    | v => some v
  else if kind.is .syntaxError && name.is "msg" then some (argAt args 0)
  else if kind.is .importError && name.is "msg" then some (if args.length == 1 then argAt args 0 else .none)
  else none

/-- The parts of a response that are not methods. -/
def responsePart? (r : Http.Response) (headers : Value) (name : Text) : Option Value :=
  if name.is "status" then some (.int r.status)
  else if isNamed name ["status_text", "statusText"] then some (.text r.reason)
  else if name.is "headers" then some headers
  else if name.is "ok" then some (.bool r.isOk)
  else if name.is "redirected" then some (.bool r.isRedirect)
  else none

def responseMethods : List String :=
  ["clone", "text", "json", "blob", "form_data", "formData", "array_buffer", "arrayBuffer", "error"]

def promiseMethods : List String := ["then", "catch"]
def exceptionMethods : List String := ["with_traceback", "add_note"]
def generatorMethods : List String := ["send", "throw", "close"]
def sessionMethods : List String := ["request", "close"]

/-- Whether the values of a type have a method with a name. -/
def TypeName.hasMethod (t : TypeName) (name : Text) : Bool :=
  match t with
  | .text => Machine.hasMethod textMethods name
  | .bytes => Machine.hasMethod bytesMethods name
  | .int | .bool => Machine.hasMethod intMethods name
  | .float => Machine.hasMethod floatMethods name
  | .complex => Machine.hasMethod complexMethods name
  | .list => Machine.hasMethod listMethods name
  | .tuple => Machine.hasMethod tupleMethods name
  | .dict => Machine.hasMethod dictMethods name || name.is "update"
  | .set => Machine.hasMethod setMethods name
  | .range => Machine.hasMethod rangeMethods name
  | .slice => name.is "indices"
  | .date => Machine.hasMethod dateMethods name
  | .moment => Machine.hasMethod momentMethods name || Machine.hasMethod dateMethods name
  | .clock => Machine.hasMethod clockMethods name
  | .duration => Machine.hasMethod durationMethods name
  | .session => isNamed name sessionMethods
  | .exception _ => isNamed name exceptionMethods
  | _ => false

/-- What a value has from its type: a bound of it, or a way to make others. -/
def fromType? (t : TypeName) (name : Text) : Option Value :=
  (calendarBound? t name).or (if t.hasMaker name then some (.builtin (.maker t name)) else none)

/-- The type that brings the method of a type that has a name. -/
def methodOwner (t : TypeName) (name : Text) : TypeName :=
  match t with
  | .bool => .int
  | .moment => if Machine.hasMethod momentMethods name then .moment else .date
  | .exception _ => .exception .baseException
  | _ => t

/-- The parts that exceptions of a kind bring: those that are worked out, and those that are kept. -/
def kindParts (kind : ExceptionKind) : List String × List String :=
  match kind with
  | .baseException => (["args"], [])
  | .osError => (["characters_written"], ["errno", "strerror", "filename", "filename2"])
  | .importError => ([], ["msg", "name", "path"])
  | .attributeError => ([], ["name", "obj"])
  | .nameError => ([], ["name"])
  | .stopIteration => ([], ["value"])
  | .systemExit => ([], ["code"])
  | .syntaxError =>
    ([], ["msg", "filename", "lineno", "offset", "text", "end_lineno", "end_offset", "print_file_and_line"])
  | .unicodeTranslateError => ([], "encoding" :: pieceNames kind)
  | _ => ([], pieceNames kind)

/-- The parts that the values of a type have from it: those that are worked out, and those that are kept. -/
def ownParts (t : TypeName) : List String × List String :=
  match t with
  | .int => (["real", "imag", "numerator", "denominator"], [])
  | .float => (["real", "imag"], [])
  | .complex => ([], ["real", "imag"])
  | .slice | .range => ([], ["start", "stop", "step"])
  | .date => (["year", "month", "day"], [])
  | .moment | .clock => (Run.clockNames.map Text.toString, [])
  | .duration => ([], ["days", "seconds", "microseconds"])
  | .exception kind => kindParts kind
  | _ => ([], [])

/-- The part of the values of a type that has a name, as the type shows it. -/
def typePart? (t : TypeName) (name : Text) : Option Value :=
  t.lineage.findSome? fun owner =>
    let (computed, kept) := ownParts owner
    if isNamed name computed then some (.builtin (.part owner name false))
    else if isNamed name kept then some (.builtin (.part owner name true))
    else none

/-- What a session keeps that is a value of its own. -/
def sessionPart? (s : Http.Session) (clients : List Value) (name : Text) : Option Value :=
  if name.is "_client" then some ((s.current.bind fun place => clients[place]?).getD .none)
  else if name.is "_owns_client" then some (.bool s.ownsClients)
  else none

/-- What the client at a place of a session shows. -/
def clientPart? (s : Http.Session) (place : Nat) (name : Text) : Option Value :=
  if name.is "is_closed" then some (.bool ((s.connections[place]?).any Http.Connection.closed)) else none

/-- The name of the function of every type that lists the types above it. -/
def lineageName : String := "mro"

/-- What a type shows under a name. -/
def typeAttribute? (t : TypeName) (name : Text) : Option Value :=
  if name.is lineageName then some (.builtin (.maker t name))
  else if t.hasMethod name then some (.builtin (.unbound (methodOwner t name) name))
  else (typePart? t name).or (fromType? t name)

/-- The names of the items of the place of a day in its week. -/
def weekNames : List String := ["year", "week", "weekday"]

/-- What a row has under a name. -/
def rowPart? (items : List Value) (mark : RowMark) (name : Text) : Option Value :=
  match mark with
  | .week _ => if isNamed name weekNames then items[weekNames.idxOf (Text.toString name)]? else none
  | _ => none

namespace Run

/-- The attribute of what is in a cell. -/
def cellAttribute? (address : Nat) (cell : Cell) (name : Text) : Option Value :=
  let v := Value.ref address
  match cell with
  | .list _ => methodIf (hasMethod listMethods name) v name
  | .dict entries isExports =>
    if hasMethod dictMethods name || name.is "update" then some (.method v name 0)
    else if isExports then (entries.find? fun e => e.1.sameKey (.text name)).map (·.2)
    else fromType? .dict name
  | .set _ => methodIf (hasMethod setMethods name) v name
  | .proxy _ => methodIf (hasMethod readingMethods name) v name
  | .view kind _ => methodIf (kind != .values && hasMethod viewMethods name) v name
  | .generator _ state =>
    if name.is "gi_running" then some (.bool state.isRunning)
    else if name.is "gi_suspended" then some (.bool state.isSuspended)
    else methodIf (isNamed name generatorMethods) v name
  | .exception kind args attributes =>
    if name.is "args" then some (.tuple args .items)
    else match getNamed? attributes name with
      | some a => some a
      | none => match kindAttribute? kind args name with
        | some a => some a
        | none => methodIf (isNamed name exceptionMethods) v name
  | .namespace entries => getNamed? entries name
  | .module _ entries => getNamed? entries name
  | .session s clients => (sessionPart? s clients name).or (methodIf (isNamed name sessionMethods) v name)
  | _ => none

/-- The attribute of a value, if it has it. -/
def attribute? (v : Value) (name : Text) : Run (Option Value) := do
  let ofType (t : TypeName) (part : Option Value) : Option Value :=
    (part.or (methodIf (t.hasMethod name) v name)).or (fromType? t name)
  match v with
  | .text _ => return ofType .text none
  | .bytes _ => return ofType .bytes none
  | .int n => return ofType .int (intPart? n name)
  | .bool b => return ofType .bool (intPart? (if b then 1 else 0) name)
  | .float x => return ofType .float (floatPart? x name)
  | .complex re im => return (complexPart? ⟨re, im⟩ name).or (methodIf (hasMethod complexMethods name) v name)
  | .tuple items mark => return (rowPart? items mark name).or (methodIf (hasMethod tupleMethods name) v name)
  | .range start stop step =>
    return if name.is "start" then some (.int start) else if name.is "stop" then some (.int stop)
      else if name.is "step" then some (.int step) else methodIf (hasMethod rangeMethods name) v name
  | .slice start stop step =>
    return if name.is "start" then some start else if name.is "stop" then some stop
      else if name.is "step" then some step else methodIf (name.is "indices") v name
  | .date d => return ofType .date (datePart? d name)
  | .moment m => return ofType .moment ((datePart? m.date name).or (clockPart? m.clock name))
  | .clock t => return ofType .clock (clockPart? t name)
  | .duration d => return ofType .duration (durationPart? d name)
  | .zone _ => return (zoneBound? name).or (methodIf (hasMethod zoneMethods name) v name)
  | .type t | .generic _ t _ _ => return typeAttribute? t name
  | .promise _ rejected payload =>
    return if name.is (if rejected then "error" else "value") then some payload
      else methodIf (isNamed name promiseMethods) v name
  | .response r headers => return (responsePart? r headers name).or (methodIf (isNamed name responseMethods) v name)
  | .ref address =>
    match ← cellAt address with
    | .foreign (.object _ attributes) =>
      match getNamed? attributes name with
      | some d => return some (← ofDatum d)
      | none => return none
    | .client session place =>
      match ← cellAt session with
      | .session s _ => return clientPart? s place name
      | _ => return none
    | .view kind dict =>
      -- The dict that a view is of is shown so that it cannot be written.
      if name.is "mapping" then return some (← alloc (.proxy dict))
      else return cellAttribute? address (.view kind dict) name
    | cell => return cellAttribute? address cell name
  | _ => return none

/-- Calls a method of a value, which must have it. -/
def callNamed (m : Interp) (v : Value) (name : Text) (args : List Value) : Run Value := do
  match ← attribute? v name with
  | some f => m.apply f args
  | none => raise .attributeError ("'" ++ (← typeName v) ++ "' object has no attribute '" ++ name ++ "'")

/-- Whether a value is text or the type of texts. -/
def isTextual : Value → Bool
  | .text _ => true
  | .type t => t == .text
  | _ => false

/-- Reads an attribute, whichever it is; where it is missing the default stands for it, if there is one. -/
def readAttribute (v : Value) (name : Text) (default : Option Value) : Run Value := do
  match ← attribute? v name, default with
  | some (.method object name _), _ => return .method object name (← newMark)
  | some a, _ | none, some a => return a
  | none, none => raise .attributeError ("'" ++ (← typeName v) ++ "' object has no attribute '" ++ name ++ "'")

/-- Reads an attribute; the formatting of texts is kept from scripts. -/
def getAttribute (v : Value) (name : Text) : Run Value := do
  if isTextual v && isNamed name ["format", "format_map"] then
    raise .notImplementedError "Using the format*() methods of `str` is not safe"
  readAttribute v name (some .none)

def refuseAttributeWrite {α : Type} : Run α := typeError "attribute-less object (assign or del)"

/-- The complaint about an attribute that a list or a dict cannot be given. -/
def refuseAttribute {α : Type} (v : Value) (name : Text) : Run α := do
  let kind ← typeName v
  match ← attribute? v name with
  | some _ => raise .attributeError ("'" ++ kind ++ "' object attribute '" ++ name ++ "' is read-only")
  | none => raise .attributeError ("'" ++ kind ++ "' object has no attribute '" ++ name ++ "'")

/-- Writes an attribute. -/
def setAttribute (v : Value) (name : Text) (new : Value) : Run Unit := do
  match v with
  | .ref address =>
    match ← cellAt address with
    | .dict entries true => setCell address (.dict (putEntry entries (.text name) new) true)
    | .dict _ false | .list _ => refuseAttribute v name
    | _ => refuseAttributeWrite
  | _ => refuseAttributeWrite

/-- Deletes an attribute. -/
def eraseAttribute (v : Value) (name : Text) : Run Unit := do
  match v with
  | .ref address =>
    match ← cellAt address with
    | .dict entries true =>
      match withoutKey entries (.text name) with
      | some entries => setCell address (.dict entries true)
      | none => raise .attributeError name
    | .dict _ false | .list _ => refuseAttribute v name
    | _ => refuseAttributeWrite
  | _ => refuseAttributeWrite

end Run

end PhaseScript.Machine
