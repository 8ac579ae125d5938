import PhaseScript.Machine.CoreFunctions
import PhaseScript.Machine.HostFunctions
import PhaseScript.Machine.MathFunctions
import PhaseScript.Machine.Scope
/-
Calling whatever is not a function of the script itself.
-/
set_option autoImplicit false

namespace PhaseScript.Machine

/-- A method with the object it belongs to: how it takes arguments, and what it does. -/
structure BoundMethod where
  intake : Intake
  call : Interp → List Value → List (Text × Value) → Run Value

/-- The method of a table that has a name, bound to an object. -/
def boundIn? {σ : Type} (methods : List (Method σ)) (typeName : String) (self : σ) (name : Text) : Option BoundMethod :=
  (findMethod? methods name).map fun method =>
    ⟨method.intake, fun m args named => method.call typeName m self args named⟩

namespace Run

/-- Raises the end of an iteration with a result. -/
def stopIteration {α : Type} (result : Value) : Run α :=
  match result with
  | .none => raiseArgs .stopIteration []
  | v => raiseArgs .stopIteration [v]

/-- Goes on with a generator; its end is raised. -/
def resumed (m : Interp) (generator : Nat) (handed : Except Value Value) : Run Value := do
  match ← m.resume generator handed with
  | .yielded v => return v
  | .returned v => stopIteration v

/-- The exception that is raised by a value: itself, or a new one of its kind. -/
def exceptionFrom? (m : Interp) (v : Value) : Run (Option Value) := do
  match v with
  | .type (.exception _) => return some (← m.apply v [])
  | .ref address =>
    match ← cellAt address with
    | .exception _ _ _ => return some v
    | _ => return none
  | _ => return none

/-- Raises an exception in a generator. -/
def throwInto (m : Interp) (generator : Nat) (args : List (Option Value)) : Run Value := do
  let v := argument args 0
  let error ← match v, given? args 1 with
    | .type (.exception _), some .none | .type (.exception _), none => exceptionFrom? m v
    | .type (.exception _), some arg => do pure (some (← m.apply v [arg]))
    | _, _ => exceptionFrom? m v
  match error with
  | some e => resumed m generator (.error e)
  | none => typeErrorOf "exceptions must be classes or instances deriving from BaseException, not " v []

/-- Whether a value is an exception of a kind. -/
def isException (kind : ExceptionKind) (v : Value) : Run Bool := isInstance v (.exception kind)

/-- Closes a generator: it is told to leave, and must not give anything any more. -/
def closeGenerator (m : Interp) (generator : Nat) : Run Value := do
  match ← cellAt generator with
  | .generator name (.waiting _ false) =>
    setCell generator (.generator name .finished)
    return .none
  | .generator _ .finished => return .none
  | _ =>
    let leaving ← newException .generatorExit []
    match ← catching (m.resume generator (.error leaving)) with
    | .ok (.yielded _) => raise .runtimeError "generator ignored GeneratorExit"
    | .ok (.returned _) => return .none
    | .error e =>
      if (← isException .generatorExit e) || (← isException .stopIteration e) then return .none else raiseValue e

/-- The methods of generators, by address. -/
def generatorTable : List (Method Nat) := [
  ⟨"send", .single, fun m a args => do
    match ← cellAt a, argument args 0 with
    | .generator _ (.waiting _ false), .none => resumed m a (.ok .none)
    | .generator _ (.waiting _ false), _ => typeError "can't send non-None value to a just-started generator"
    | _, v => resumed m a (.ok v)⟩,
  ⟨"throw", .span 1 3, throwInto⟩,
  ⟨"close", .nothing true, fun m a _ => closeGenerator m a⟩]

/-- The methods of exceptions. Where an exception came from is not kept, and neither are notes. -/
def exceptionTable : List (Method Value) := [
  ⟨"with_traceback", .single, fun _ self args =>
    match argument args 0 with
    | .none => return self
    | _ => typeError "__traceback__ must be a traceback or None"⟩,
  ⟨"add_note", .single, fun _ _ args =>
    match argument args 0 with
    | .text _ => return .none
    | v => typeErrorOf "note must be a str, not '" v "'"⟩]

/-- The method of slices. -/
def sliceTable : List (Method Value) := [
  ⟨"indices", .single, fun _ self args => do
    let length ← index (argument args 0)
    if length < 0 then valueError "length should not be negative"
    match self with
    | .slice start stop step => do
      let places ← slicePlaces start stop step length.toNat
      newTuple [.int places.start, .int places.stop, .int places.step]
    | _ => return .none⟩]

/-- The method of a session that has a name. -/
def sessionMethod? (address : Nat) (name : Text) : Option BoundMethod :=
  if name.is "request" then some ⟨.any, fun m args named => requestOver m address args named⟩
  else if name.is "close" then some ⟨.nothing true, fun _ args named => closeSession address args named⟩
  else none

/-- Updates a dict, which takes any names. -/
def dictUpdate (address : Nat) : BoundMethod :=
  ⟨.any, fun m args named => do
    checkSpan "update" 0 1 args.length
    updateDict m address args.head? named
    return .none⟩

/-- The method that a value has under a name. -/
def boundMethod? (v : Value) (name : Text) : Run (Option BoundMethod) := do
  match v with
  | .text t => return boundIn? textMethods "str" t name
  | .bytes b => return boundIn? bytesMethods "bytes" b name
  | .int n => return boundIn? intMethods "int" n name
  | .bool b => return boundIn? intMethods "bool" (if b then 1 else 0) name
  | .float x => return boundIn? floatMethods "float" x name
  | .complex re im => return boundIn? complexMethods "complex" ⟨re, im⟩ name
  | .tuple items _ => return boundIn? tupleMethods "tuple" items name
  | .range start stop step => return boundIn? rangeMethods "range" (start, stop, step) name
  | .slice _ _ _ => return boundIn? sliceTable "slice" v name
  | .date d => return boundIn? dateMethods "date" d name
  | .moment m => return (boundIn? momentMethods "datetime" m name).or (boundIn? dateMethods "datetime" m.date name)
  | .clock t => return boundIn? clockMethods "time" t name
  | .duration d => return boundIn? durationMethods "timedelta" d name
  | .zone offset => return boundIn? zoneMethods "timezone" offset name
  | .ref address =>
    match ← cellAt address with
    | .list _ => return boundIn? listMethods "list" address name
    | .dict _ _ =>
      return if name.is "update" then some (dictUpdate address) else boundIn? dictMethods "dict" address name
    | .set _ => return boundIn? setMethods "set" address name
    | .proxy dict => return boundIn? readingMethods "mappingproxy" dict name
    | .view kind _ =>
      return if kind == .values then none
        else boundIn? viewMethods (if kind == .keys then "dict_keys" else "dict_items") v name
    | .generator _ _ => return boundIn? generatorTable "generator" address name
    | .exception kind _ _ => return boundIn? exceptionTable kind.name v name
    | .session _ _ => return sessionMethod? address name
    | _ => return none
  | _ => return none

/-- Calls a method of an object. -/
def callMethod (m : Interp) (object : Value) (name : Text) (args : List Value) (named : List (Text × Value)) :
    Run Value := do
  if object.hasPlainMethods then callPlainMethod m object name args named
  else match ← boundMethod? object name with
    | some method => method.call m args named
    | none => return .none

/-- Calls a method without its object, which is the first argument. -/
def callUnbound (m : Interp) (owner : TypeName) (name : Text) (args : List Value) (named : List (Text × Value)) :
    Run Value := do
  let ownerName := owner.fullName
  match args with
  | [] => typeError ("unbound method " ++ Text.ofString owner.name ++ "." ++ name ++ "() needs an argument")
  | self :: rest =>
    if ← isInstance self owner then callMethod m self name rest named
    else typeErrorOf ("descriptor '" ++ name ++ "' for '" ++ ownerName ++ "' objects doesn't apply to a '") self "' object"

/-- Reads the attribute of a value that a text names. -/
def callAnyAttribute (args : List Value) (named : List (Text × Value)) : Run Value := do
  let args ← takeArguments (.span 2 3) "getattr" "getattr" args named
  match argument args 1 with
  | .text name => readAttribute (argument args 0) name (given? args 2)
  | v => typeErrorOf "attribute name must be string, not '" v "'"

/-- Calls a builtin function. -/
def callBuiltin (m : Interp) (f : Builtin) (args : List Value) (named : List (Text × Value)) : Run Value :=
  match f with
  | .core g => callCore m g args named
  | .anyAttribute => callAnyAttribute args named
  | .jsonLoads => loads m args named
  | .jsonDumps => dumps m args named
  | .math name => callMath m name args named
  | .unbound owner name => callUnbound m owner name args named
  | .maker t name => callMaker m t name args named
  | .part _ _ _ => typeErrorOf "'" (.builtin f) "' object is not callable"
  | f =>
    match f.signature? with
    | some s => do callHost m f (← bindPlain s args named)
    | none => typeError "'function' object is not callable"

/-- The name of the functions that stand for handlers. -/
def stubName : Text := "handler"

/-- The signature of a function that stands for a handler. -/
def stubSignature (parameters : List (Text × ParameterKind × Option Datum)) : Run (Signature Value) := do
  let formals ← parameters.mapM fun (name, kind, default) => do
    let default ← match default with
      | some d => do pure (some (← ofDatum d))
      | none => pure none
    return ⟨name, kind, default⟩
  return ⟨stubName, formals⟩

/-- What a parameter is bound to, as a value. -/
def boundValue (b : Bound Value) : Run Value :=
  match b with
  | .one v => return v
  | .row values => newList values
  | .named entries => newDict (entries.map fun (n, v) => (.text n, v))

/-- Calls a function that gives a fixed result, or raises, or gives its arguments. -/
def callStub (parameters : List (Text × ParameterKind × Option Datum)) (result : Option Datum)
    (raises : Option (ExceptionKind × List Datum)) (args : List Value) (named : List (Text × Value)) : Run Value := do
  let bound ← bindPlain (← stubSignature parameters) args named
  match raises, result with
  | some (kind, data), _ => raiseValue (← exceptionOf ⟨kind, data, []⟩)
  | none, some d => ofDatum d
  | none, none =>
    match parameters, bound with
    | [(_, .variadic, _)], [.row values] => newList values
    | _, _ => do newList (← bound.mapM boundValue)

/-- Calls a value that is not a function of the script. -/
def callOther (m : Interp) (f : Value) (args : List Value) (named : List (Text × Value)) : Run Value := do
  let refused : Run Value := typeErrorOf "'" f "' object is not callable"
  match f with
  | .type t | .generic _ t _ _ => do freshUnmarked (← construct m t args named)
  | .builtin g => callBuiltin m g args named
  | .method object name _ => do freshUnmarked (← callMethod m object name args named)
  | .ref address =>
    match ← cellAt address with
    | .foreign (.stub parameters result raises) => callStub parameters result raises args named
    | .foreign (.builtin name) =>
      match builtin? name with
      | some g => m.call g args named
      | none => refused
    | _ => refused
  | _ => refused

/-- Whether a handler is to be given the context: all are but those whose parameters are known to take nothing by
position. -/
def takesContext (f : Value) : Run Bool := do
  match f with
  | .builtin g => return (g.signature?.map Signature.takesPositional).getD true
  | .method object name _ =>
    if object.hasPlainMethods then
      return ((plainMethodSignature object name).parameters.drop 1).length != 0
    else return !((← boundMethod? object name).any fun method => method.intake.takesNone)
  | .ref address =>
    match ← cellAt address with
    | .function shape _ _ _ _ =>
      return shape.parameters.any fun (_, kind, _) => kind != .keywordOnly && kind != .keywords
    | .foreign (.stub parameters _ _) => return Signature.takesPositional (← stubSignature parameters)
    | _ => return true
  | _ => return true

end Run

end PhaseScript.Machine
