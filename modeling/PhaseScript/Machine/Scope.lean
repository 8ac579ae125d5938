import PhaseScript.Machine.Heap
import PhaseScript.Signature
/-
Names at run time: the core types, functions and exceptions that a script finds under their names, the scopes of
functions, the global names, and the scope of a call.
-/
set_option autoImplicit false

namespace PhaseScript.Machine

/-- The types that go by a name, exceptions left out. -/
def namedTypes : List TypeName := [.bool, .complex, .dict, .enumerate, .filter, .float, .int, .list, .map, .range, .set,
  .slice, .text, .tuple]

/-- The kinds of exceptions that go by a name. -/
def namedExceptions : List ExceptionKind := [.arithmeticError, .assertionError, .attributeError, .bufferError,
  .bytesWarning, .deprecationWarning, .eofError, .exception, .floatingPointError, .futureWarning, .importError,
  .importWarning, .indentationError, .indexError, .keyError, .lookupError, .memoryError, .nameError,
  .notImplementedError, .osError, .overflowError, .pendingDeprecationWarning, .referenceError, .runtimeError,
  .runtimeWarning, .stopIteration, .syntaxError, .syntaxWarning, .systemError, .tabError, .typeError,
  .unboundLocalError, .unicodeDecodeError, .unicodeEncodeError, .unicodeError, .unicodeTranslateError,
  .unicodeWarning, .userWarning, .valueError, .warning, .zeroDivisionError]

def typeEntry (t : TypeName) : Text × Value := (Text.ofString t.name, .type t)

def coreEntry (f : CoreFunction) : Text × Value := (Text.ofString f.name, .builtin (.core f))

def exceptionEntry (kind : ExceptionKind) : Text × Value := (Text.ofString kind.name, .type (.exception kind))

/-- The other names of the system error. -/
def systemErrorNames : List (Text × Value) :=
  [("EnvironmentError", .type (.exception .osError)), ("IOError", .type (.exception .osError))]

def closedEntry (name : Text) : Text × Value := (name, .builtin (.closed name))

def constantEntries : List (Text × Value) :=
  [("None", .none), ("False", .bool false), ("True", .bool true), ("Ellipsis", .ellipsis)]

/-- The core names. -/
def builtinEntries : List (Text × Value) :=
  CoreFunction.everyOne.map coreEntry ++ namedTypes.map typeEntry ++ constantEntries
    ++ namedExceptions.map exceptionEntry ++ systemErrorNames
    ++ [closedEntry "__build_class__", closedEntry "_getattr_"]

/-- What a core name stands for. -/
def builtin? (name : Text) : Option Value := getNamed? builtinEntries name

end PhaseScript.Machine

namespace PhaseScript.Machine.Run

open Script (Location FunctionShape)

/-- The scope so many scopes further out. -/
def scopeOut : Nat → Option Nat → Run (Option Nat)
  | 0, scope => return scope
  | _, none => return none
  | hops + 1, some address => do
    match ← cellAt address with
    | .scope _ outer _ => scopeOut hops outer
    | _ => return none

/-- The place of a scope, if it has a value. -/
def slot? (scope : Option Nat) (hops index : Nat) : Run (Option Value) := do
  match ← scopeOut hops scope with
  | none => return none
  | some address =>
    match ← cellAt address with
    | .scope slots _ _ => return (slots[index]?).join
    | _ => return none

def setSlot (scope : Option Nat) (hops index : Nat) (v : Option Value) : Run Unit := do
  match ← scopeOut hops scope with
  | none => return ()
  | some address =>
    fun w =>
      match w.heap[address]? with
      | some (.scope slots outer captured) =>
        let heap := w.heap.setIfInBounds address (.namespace [])
        .ok () { w with heap := heap.setIfInBounds address (.scope (slots.setIfInBounds index v) outer captured) }
      | _ => .ok () w

/-- Raises the complaint about a name, which the exception knows. -/
def nameComplaint {α : Type} (name message : Text) : Run α := do
  raiseValue (← alloc (.exception .nameError [.text message] [("name", .text name)]))

/-- The complaint about a name without a value. -/
def noValue {α : Type} (name : Text) (hops : Nat) : Run α :=
  if hops == 0 then
    raise .unboundLocalError ("cannot access local variable '" ++ name ++ "' where it is not associated with a value")
  else
    nameComplaint name ("cannot access free variable '" ++ name
      ++ "' where it is not associated with a value in enclosing scope")

def notDefined {α : Type} (name : Text) : Run α := nameComplaint name ("name '" ++ name ++ "' is not defined")

/-- The value of a name. -/
def load (scope : Option Nat) (name : Text) (location : Location) : Run Value := do
  match location with
  | .slot hops index =>
    match ← slot? scope hops index with
    | some v => return v
    | none => noValue name hops
  | .global => do
    let found ← fun w => .ok (getNamed? w.globals name) w
    match found with
    | some v => return v
    | none => match builtin? name with
      | some v => return v
      | none => notDefined name

/-- Gives a name a value. -/
def store (scope : Option Nat) (name : Text) (location : Location) (v : Value) : Run Unit :=
  match location with
  | .slot hops index => setSlot scope hops index (some v)
  | .global => fun w => .ok () { w with globals := putNamed name v w.globals }

/-- Takes its value from a name, if it has one. -/
def forget (scope : Option Nat) (name : Text) (location : Location) : Run Unit :=
  match location with
  | .slot hops index => setSlot scope hops index none
  | .global => fun w => .ok () { w with globals := w.globals.filter fun entry => entry.1 != name }

/-- Deletes a name, which must have a value. -/
def erase (scope : Option Nat) (name : Text) (location : Location) : Run Unit := do
  match location with
  | .slot hops index =>
    if (← slot? scope hops index).isNone then noValue name hops
  | .global =>
    let found ← fun w => .ok (getNamed? w.globals name) w
    if found.isNone then notDefined name
  forget scope name location

/-- The parameters of a function with their defaults: those by position in turn, the others by name. -/
def formalParameters (namedDefaults : List (Text × Value)) :
    List (Text × ParameterKind × Bool) → List Value → List (FormalParameter Value)
  | [], _ => []
  | (name, kind, hasDefault) :: rest, defaults =>
    if kind == .keywordOnly then ⟨name, kind, getNamed? namedDefaults name⟩ :: formalParameters namedDefaults rest defaults
    else match hasDefault, defaults with
      | true, v :: left => ⟨name, kind, some v⟩ :: formalParameters namedDefaults rest left
      | _, _ => ⟨name, kind, none⟩ :: formalParameters namedDefaults rest defaults

/-- The value that a parameter gets in the scope. -/
def parameterValue (b : Bound Value) : Run Value :=
  match b with
  | .one v => return v
  | .row values => newTuple values
  | .named entries => newDict (entries.map fun (n, v) => (.text n, v))

/-- The values of the parameters of a call. -/
def bindCall (shape : FunctionShape) (defaults : List Value) (namedDefaults : List (Text × Value)) (args : List Value)
    (named : List (Text × Value)) : Run (List Value) := do
  let isPlain := named.isEmpty && args.length == shape.parameters.length
    && shape.parameters.all fun (_, kind, _) => kind == .positional || kind == .positionalOnly
  if isPlain then return args
  let signature : Signature Value := ⟨shape.fullName, formalParameters namedDefaults shape.parameters defaults⟩
  match signature.bind args named with
  | .ok bound => bound.mapM parameterValue
  | .error misfit => typeError (misfit.message shape.fullName)

/-- The scope of a call: the parameters, then the other names, which have no value yet. -/
def newScope (shape : FunctionShape) (values : List Value) (outer : Option Nat) : Run (Option Nat) := do
  let slots := (values.map some).toArray ++ Array.replicate (shape.slots - values.length) none
  match ← alloc (.scope slots outer shape.captured) with
  | .ref address => return some address
  | _ => return none

end PhaseScript.Machine.Run
